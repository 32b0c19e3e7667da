import SqlEngine.Proofs.Typing.Combines
import SqlEngine.Proofs.Typing.Flat

/-!
Compiled terms and queries are typed, if no query of an expression has a `WITH` list.
-/

namespace SqlEngine

open Run (bind_ok mapM_ok)
open Build (Gives Part)

namespace Sql

variable {known : TableDef → Prop}

/-- Lists of parts of a term. -/
abbrev Parts (known : TableDef → Prop) (n : Names) (beyond : List Seen) (s : Scope)
    (calls : List CollectedCall) (es : List Expr) : Prop :=
  ∀ e ∈ es, Part known n beyond s calls e

theorem parts_grow {n : Names} {beyond : List Seen} {s : Scope} {calls more : List CollectedCall} {es : List Expr}
    (parts : Parts known n beyond s calls es) (grown : calls <+: more) :
    Parts known n beyond s more es :=
  fun e member => n.grow (parts e member) grown

mutual

theorem Term.compile_gives {beyond : List Seen} : ∀ {t : Term} {n : Names} {s : Scope} {start : List CollectedCall},
    n.Sound known → t.isFlat →
      Gives (n.Collects known beyond s) start (Part known n beyond s) (t.compile n s)
  | .name id, n, s, start, _, _ => by
      rw [Term.compile]
      exact Gives.lift fun _ => Build.name_typed
  | .path parts, n, s, start, _, _ => by
      rw [Term.compile]
      exact Gives.lift fun _ => Build.path_typed
  | .constant value, n, s, start, _, _ => by
      rw [Term.compile]
      exact Gives.lift fun _ => Build.literal_typed
  | .nested t, n, s, start, sound, flat => by
      rw [Term.compile]
      exact Term.compile_gives sound flat
  | .typed type text, n, s, start, _, _ => by
      rw [Term.compile]
      exact Gives.lift fun _ => Build.typed_typed
  | .cast t type _, n, s, start, sound, flat => by
      rw [Term.compile]
      refine Gives.lift_bind fun target _ => ?_
      refine (Term.compile_gives (t := t) sound flat).bind fun e _ _ typed => Gives.lift fun _ given => ?_
      exact (Expr.convert_typed given typed).1
  | .unary op t, n, s, start, sound, flat => by
      rw [Term.compile]
      refine (Term.compile_gives (t := t) sound flat).bind fun e _ _ typed => Gives.lift fun _ given => ?_
      exact Build.unary_typed given typed
  | .binary left op right, n, s, start, sound, flat => by
      simp only [Term.isFlat, Bool.and_eq_true] at flat
      rw [Term.compile]
      refine (Term.compile_gives sound flat.1).bind fun l _ _ leftTyped => ?_
      refine (Term.compile_gives sound flat.2).bind fun r _ grown rightTyped => ?_
      exact Gives.lift fun _ given => Build.binary_typed given (n.grow leftTyped grown) rightTyped
  | .is t test negated, n, s, start, sound, flat => by
      rw [Term.compile]
      refine (Term.compile_gives (t := t) sound flat).bind fun e _ _ typed => Gives.lift fun _ given => ?_
      exact Build.truthTest_typed given typed
  | .inList t items negated, n, s, start, sound, flat => by
      simp only [Term.isFlat, Bool.and_eq_true] at flat
      rw [Term.compile]
      refine (Term.compile_gives sound flat.1).bind fun e _ _ typed => ?_
      refine (Term.compileAll_gives sound flat.2).bind fun es _ grown parts => ?_
      refine Gives.lift fun _ given => Build.inList_typed given ?_
      exact List.forall_mem_cons.mpr ⟨n.grow typed grown, parts⟩
  | .inQuery t query negated, n, s, start, sound, flat => by
      simp only [Term.isFlat, Bool.and_eq_true] at flat
      rw [Term.compile]
      refine (Term.compile_gives sound flat.1).bind fun e _ _ typed => ?_
      refine Gives.lift_bind fun p planned => Gives.lift fun _ given => ?_
      exact Build.among_typed given typed
        (Query.plan_typed beyond (sound.within s) (by simp) flat.2 planned)
  | .exists query negated, n, s, start, sound, flat => by
      rw [Term.compile]
      refine Gives.lift_bind fun p planned => Gives.pure ?_
      exact ⟨_, (Query.plan_typed beyond (sound.within s) (by simp) flat planned).1⟩
  | .subquery query, n, s, start, sound, flat => by
      rw [Term.compile]
      refine Gives.lift_bind fun p planned => Gives.lift fun _ given => ?_
      exact Build.scalar_typed given (Query.plan_typed beyond (sound.within s) (by simp) flat planned)
  | .between t low high negated, n, s, start, sound, flat => by
      simp only [Term.isFlat, Bool.and_eq_true] at flat
      rw [Term.compile]
      refine (Term.compile_gives sound flat.1.1).bind fun e _ _ typed => ?_
      refine (Term.compile_gives sound flat.1.2).bind fun l _ first lowTyped => ?_
      refine (Term.compile_gives sound flat.2).bind fun h _ second highTyped => ?_
      exact Gives.lift fun _ given => Build.between_typed given
        (n.grow (n.grow typed first) second) (n.grow lowTyped second) highTyped
  | .like t pattern escape negated insensitive, n, s, start, sound, flat => by
      simp only [Term.isFlat, Bool.and_eq_true] at flat
      rw [Term.compile]
      dsimp only
      split
      · exact Gives.throw _
      · refine (Term.compile_gives sound flat.1).bind fun e _ _ typed => ?_
        exact Build.like_gives typed (Term.compile_gives sound flat.2)
  | .case operand branches otherwise, n, s, start, sound, flat => by
      simp only [Term.isFlat, Bool.and_eq_true] at flat
      rw [Term.compile]
      refine (Term.compileOption_gives sound flat.1.1).bind fun o _ _ operandTyped => ?_
      refine (Term.compileTests_give sound flat.1.2 operandTyped).bind fun tests _ _ testParts => ?_
      refine (Term.compileResults_give sound flat.1.2).bind fun results _ first parts => ?_
      refine (Term.compileOption_gives sound flat.2).bind fun last _ second lastTyped => ?_
      refine Gives.lift fun _ given => Build.choice_typed given
        (parts_grow (parts_grow testParts first) second) ?_
      intro e member
      rcases List.mem_append.mp member with inResults | isLast
      · exact parts_grow parts second e inResults
      · exact lastTyped e (Option.mem_toList.mp isLast)
  | .call head args _ _, n, s, start, sound, flat => by
      rw [Term.compile]
      dsimp only
      split
      · exact Gives.throw _
      · refine Gives.lift_bind fun name _ => ?_
        split
        · exact Build.aggregateCall_gives
            (fun build member => Argument.pendings_give sound flat build member s.ungrouped)
            (fun build member => Argument.pendings_give sound flat build member s)
        · split
          · exact Gives.throw _
          · refine (Argument.compileAll_gives sound flat).bind fun es _ _ parts => ?_
            exact Gives.lift fun _ given => Build.function_typed sound given parts
  | .arrayAgg distinct t orderBy limit, n, s, start, sound, flat => by
      rw [Term.compile]
      dsimp only
      split
      · exact Gives.throw _
      · refine Build.aggregate_gives (by simp) ?_
        rintro _ ⟨⟩ later
        exact Term.compile_gives (s := s.ungrouped) (t := t) sound flat
  | .array items _, n, s, start, sound, flat => by
      rw [Term.compile]
      refine (Term.compileAll_gives sound flat).bind fun es _ _ parts => ?_
      exact Gives.lift fun _ given => Build.array_typed given parts
  | .subscript t indexes, n, s, start, sound, flat => by
      simp only [Term.isFlat, Bool.and_eq_true] at flat
      rw [Term.compile]
      refine (Term.compile_gives sound flat.1).bind fun e _ _ typed => ?_
      exact Term.compileSubscripts_gives sound flat.2 typed
  | .json left operator right, n, s, start, sound, flat => by
      simp only [Term.isFlat, Bool.and_eq_true] at flat
      rw [Term.compile]
      refine Gives.lift_bind fun asText _ => ?_
      refine (Term.compile_gives sound flat.1).bind fun l _ _ leftTyped => ?_
      refine Gives.lift_bind fun doc read => ?_
      refine (Term.compile_gives sound flat.2).bind fun r _ grown rightTyped => ?_
      refine Gives.lift_bind fun key keyed => Gives.pure ?_
      obtain ⟨docTyped, document⟩ := Build.document_typed read leftTyped
      exact Build.jsonAccess_typed asText (n.grow docTyped grown) document
        (Build.documentKey_typed keyed rightTyped)
  | .unsupported phrase, n, s, start, _, _ => by
      rw [Term.compile]
      exact Gives.throw _

theorem Term.compileAll_gives {beyond : List Seen} : ∀ {terms : List Term} {n : Names} {s : Scope}
    {start : List CollectedCall}, n.Sound known → Term.allFlat terms →
      Gives (n.Collects known beyond s) start (Parts known n beyond s) (Term.compileAll n s terms)
  | [], n, s, start, _, _ => by
      rw [Term.compileAll]
      exact Gives.pure (List.forall_mem_nil _)
  | t :: rest, n, s, start, sound, flat => by
      rw [Term.allFlat, Bool.and_eq_true] at flat
      rw [Term.compileAll]
      refine (Term.compile_gives sound flat.1).bind fun e _ _ typed => ?_
      refine (Term.compileAll_gives sound flat.2).bind fun es _ grown parts => Gives.pure ?_
      exact List.forall_mem_cons.mpr ⟨n.grow typed grown, parts⟩

theorem Term.compileOption_gives {beyond : List Seen} : ∀ {term : Option Term} {n : Names} {s : Scope}
    {start : List CollectedCall}, n.Sound known → Term.optionFlat term →
      Gives (n.Collects known beyond s) start
        (fun calls e? => ∀ e ∈ e?, Part known n beyond s calls e) (Term.compileOption n s term)
  | none, n, s, start, _, _ => by
      rw [Term.compileOption]
      exact Gives.pure (by simp)
  | some t, n, s, start, sound, flat => by
      rw [Term.compileOption]
      refine (Term.compile_gives (t := t) sound flat).bind fun e _ _ typed => Gives.pure ?_
      rintro _ ⟨⟩
      exact typed

theorem Term.compileTests_give {beyond : List Seen} : ∀ {branches : List (Term × Term)} {n : Names} {s : Scope}
    {operand : Option Expr} {start : List CollectedCall}, n.Sound known →
      Term.branchesFlat branches → (∀ o ∈ operand, Part known n beyond s start o) →
        Gives (n.Collects known beyond s) start (Parts known n beyond s)
          (Term.compileTests n s operand branches)
  | [], n, s, operand, start, _, _, _ => by
      rw [Term.compileTests]
      exact Gives.pure (List.forall_mem_nil _)
  | (condition, _) :: rest, n, s, operand, start, sound, flat, operandTyped => by
      rw [Term.branchesFlat, Bool.and_eq_true, Bool.and_eq_true] at flat
      rw [Term.compileTests]
      refine (Term.compile_gives sound flat.1.1).bind fun e _ first typed => ?_
      refine Gives.lift_bind fun test given => ?_
      have grownOperand : ∀ o ∈ operand, Part known n beyond s _ o := fun o there =>
        n.grow (operandTyped o there) first
      have testTyped := Build.test_typed given grownOperand typed
      refine (Term.compileTests_give sound flat.2 grownOperand).bind fun tests _ grown parts => ?_
      exact Gives.pure (List.forall_mem_cons.mpr ⟨n.grow testTyped grown, parts⟩)

theorem Term.compileResults_give {beyond : List Seen} : ∀ {branches : List (Term × Term)} {n : Names} {s : Scope}
    {start : List CollectedCall}, n.Sound known → Term.branchesFlat branches →
      Gives (n.Collects known beyond s) start (Parts known n beyond s)
        (Term.compileResults n s branches)
  | [], n, s, start, _, _ => by
      rw [Term.compileResults]
      exact Gives.pure (List.forall_mem_nil _)
  | (_, result) :: rest, n, s, start, sound, flat => by
      rw [Term.branchesFlat, Bool.and_eq_true, Bool.and_eq_true] at flat
      rw [Term.compileResults]
      refine (Term.compile_gives sound flat.1.2).bind fun e _ _ typed => ?_
      refine (Term.compileResults_give sound flat.2).bind fun es _ grown parts => Gives.pure ?_
      exact List.forall_mem_cons.mpr ⟨n.grow typed grown, parts⟩

theorem Term.compileSubscripts_gives {beyond : List Seen} : ∀ {indexes : List Term} {n : Names} {s : Scope}
    {array : Expr} {start : List CollectedCall}, n.Sound known → Term.allFlat indexes →
      Part known n beyond s start array →
        Gives (n.Collects known beyond s) start (Part known n beyond s)
          (Term.compileSubscripts n s array indexes)
  | [], n, s, array, start, _, _, typed => by
      rw [Term.compileSubscripts]
      exact Gives.pure typed
  | index :: rest, n, s, array, start, sound, flat, typed => by
      rw [Term.allFlat, Bool.and_eq_true] at flat
      rw [Term.compileSubscripts]
      refine (Build.subscript_gives typed (Term.compile_gives sound flat.1)).bind
        fun item _ _ itemTyped => ?_
      exact Term.compileSubscripts_gives sound flat.2 itemTyped

theorem Argument.compileAll_gives {beyond : List Seen} : ∀ {args : List Argument} {n : Names} {s : Scope} {name : String}
    {start : List CollectedCall}, n.Sound known → Argument.allFlat args →
      Gives (n.Collects known beyond s) start (Parts known n beyond s)
        (Argument.compileAll n s name args)
  | [], n, s, name, start, _, _ => by
      rw [Argument.compileAll]
      exact Gives.pure (List.forall_mem_nil _)
  | .term none t :: rest, n, s, name, start, sound, flat => by
      rw [Argument.allFlat, Bool.and_eq_true] at flat
      rw [Argument.compileAll]
      refine (Term.compile_gives sound flat.1).bind fun e _ _ typed => ?_
      refine (Argument.compileAll_gives sound flat.2).bind fun es _ grown parts => Gives.pure ?_
      exact List.forall_mem_cons.mpr ⟨n.grow typed grown, parts⟩
  | .term (some label) t :: _, n, s, name, start, _, _ => by
      rw [Argument.compileAll]
      exact Gives.throw _
  | .star label :: _, n, s, name, start, _, _ => by
      rw [Argument.compileAll]
      exact Gives.throw _
  | .tableStar label table :: _, n, s, name, start, _, _ => by
      rw [Argument.compileAll]
      exact Gives.throw _

theorem Argument.pendings_give {beyond : List Seen} : ∀ {args : List Argument} {n : Names}, n.Sound known →
    Argument.allFlat args → ∀ build, .term build ∈ Argument.pendings n args →
      ∀ (s : Scope) (start : List CollectedCall),
        Gives (n.Collects known beyond s) start (Part known n beyond s) (build s)
  | [], n, _, _, build, member => by
      rw [Argument.pendings] at member
      cases member
  | .term label t :: rest, n, sound, flat, build, member => by
      rw [Argument.allFlat, Bool.and_eq_true] at flat
      rw [Argument.pendings] at member
      rcases List.mem_cons.mp member with first | later
      · cases first
        exact fun s start => Term.compile_gives sound flat.1
      · exact Argument.pendings_give sound flat.2 build later
  | .star _ :: rest, n, sound, flat, build, member => by
      rw [Argument.pendings] at member
      rw [Argument.allFlat] at flat
      exact Argument.pendings_give sound flat build (by simpa using member)
  | .tableStar _ _ :: rest, n, sound, flat, build, member => by
      rw [Argument.pendings] at member
      rw [Argument.allFlat] at flat
      exact Argument.pendings_give sound flat build (by simpa using member)

theorem Term.pendings_sound {beyond : List Seen} : ∀ {terms : List Term} {n : Names}, n.Sound known →
    Term.allFlat terms → ∀ p ∈ Term.pendings n terms, p.Sound known n beyond
  | [], n, _, _, p, member => by
      rw [Term.pendings] at member
      cases member
  | t :: rest, n, sound, flat, p, member => by
      rw [Term.allFlat, Bool.and_eq_true] at flat
      rw [Term.pendings] at member
      rcases List.mem_cons.mp member with rfl | later
      · exact fun s start => Term.compile_gives sound flat.1
      · exact Term.pendings_sound sound flat.2 p later

theorem Term.pending?_sound {beyond : List Seen} : ∀ {term : Option Term} {n : Names}, n.Sound known →
    Term.optionFlat term → ∀ p ∈ Term.pending? n term, p.Sound known n beyond
  | none, n, _, _, p, member => by
      rw [Term.pending?] at member
      cases member
  | some t, n, sound, flat, p, member => by
      rw [Term.optionFlat] at flat
      rw [Term.pending?] at member
      cases member
      exact fun s start => Term.compile_gives sound flat

theorem Term.pendings?_sound {beyond : List Seen} : ∀ {terms : Option (List Term)} {n : Names}, n.Sound known →
    Term.optionsFlat terms → ∀ keys ∈ Term.pendings? n terms, ∀ k ∈ keys, k.Sound known n beyond
  | none, n, _, _, keys, member => by
      rw [Term.pendings?] at member
      cases member
  | some terms, n, sound, flat, keys, member => by
      rw [Term.optionsFlat] at flat
      rw [Term.pendings?] at member
      cases member
      exact Term.pendings_sound sound flat

theorem Term.pendingRows_sound {beyond : List Seen} : ∀ {rows : List (List Term)} {n : Names}, n.Sound known →
    Term.listsFlat rows → ∀ row ∈ Term.pendingRows n rows, ∀ p ∈ row, p.Sound known n beyond
  | [], n, _, _, row, member => by
      rw [Term.pendingRows] at member
      cases member
  | terms :: rest, n, sound, flat, row, member => by
      rw [Term.listsFlat, Bool.and_eq_true] at flat
      rw [Term.pendingRows] at member
      rcases List.mem_cons.mp member with rfl | later
      · exact Term.pendings_sound sound flat.1
      · exact Term.pendingRows_sound sound flat.2 row later

theorem OrderTerm.pendings_sound {beyond : List Seen} : ∀ {terms : List OrderTerm} {n : Names}, n.Sound known →
    OrderTerm.allFlat terms → ∀ k ∈ OrderTerm.pendings n terms, k.pending.Sound known n beyond
  | [], n, _, _, k, member => by
      rw [OrderTerm.pendings] at member
      cases member
  | .mk t _ :: rest, n, sound, flat, k, member => by
      rw [OrderTerm.allFlat, Bool.and_eq_true] at flat
      rw [OrderTerm.pendings] at member
      rcases List.mem_cons.mp member with rfl | later
      · exact fun s start => Term.compile_gives sound flat.1
      · exact OrderTerm.pendings_sound sound flat.2 k later

theorem SelectItem.pendings_sound {beyond : List Seen} : ∀ {items : List SelectItem} {n : Names}, n.Sound known →
    SelectItem.allFlat items →
      ∀ item ∈ SelectItem.pendings n items, Select.ItemSound known n beyond item
  | [], n, _, _, item, member => by
      rw [SelectItem.pendings] at member
      cases member
  | .term t _ :: rest, n, sound, flat, item, member => by
      rw [SelectItem.allFlat, Bool.and_eq_true] at flat
      rw [SelectItem.pendings] at member
      rcases List.mem_cons.mp member with rfl | later
      · exact fun s start => Term.compile_gives sound flat.1
      · exact SelectItem.pendings_sound sound flat.2 item later
  | .star :: rest, n, sound, flat, item, member => by
      rw [SelectItem.allFlat] at flat
      rw [SelectItem.pendings] at member
      rcases List.mem_cons.mp member with rfl | later
      · trivial
      · exact SelectItem.pendings_sound sound flat item later
  | .tableStar _ :: rest, n, sound, flat, item, member => by
      rw [SelectItem.allFlat] at flat
      rw [SelectItem.pendings] at member
      rcases List.mem_cons.mp member with rfl | later
      · trivial
      · exact SelectItem.pendings_sound sound flat item later

theorem Query.plan_typed (beyond : List Seen) : ∀ {query : Query} {n : Names} {inside : Bool}
    {p : TypedPlan}, n.Sound known → (inside = false → n.outer = []) → query.isFlat inside →
      query.plan n = .ok p → p.Typed known (n.seen beyond)
  | .mk recursive bindings body orderBy limit offset _ tail, n, inside, p, sound, alone, flat,
      given => by
      simp only [Query.isFlat, Bool.and_eq_true] at flat
      rw [Query.plan] at given
      dsimp only at given
      split at given
      · cases given
      · obtain ⟨m, bound, given⟩ := bind_ok given
        split at given
        · cases given
        · obtain ⟨rows, planned, given⟩ := bind_ok given
          have unbound : inside = true → bindings = [] := by
            rintro rfl
            simpa using flat.1.1.1
          obtain ⟨soundToo, same⟩ := Binding.bindAll_sound sound alone unbound flat.1.1.2 bound
          have seen : m.seen beyond = n.seen beyond := by rw [Names.seen, Names.seen, same]
          have bodyTyped : rows.Typed known (m.seen beyond) :=
            Body.plan_typed beyond soundToo (same ▸ alone) flat.1.2
              (OrderTerm.pendings_sound soundToo flat.2) planned
          rw [← seen]
          exact TypedPlan.limited_typed given bodyTyped

theorem Binding.bindAll_sound : ∀ {bindings : List Binding} {n m : Names} {taken : List String}
    {inside : Bool}, n.Sound known → (inside = false → n.outer = []) →
      (inside = true → bindings = []) → Binding.allFlat inside bindings →
        Binding.bindAll n taken bindings = .ok m → m.Sound known ∧ m.outer = n.outer
  | [], n, m, taken, inside, sound, _, _, _, given => by
      rw [Binding.bindAll] at given
      cases given
      exact ⟨sound, rfl⟩
  | .mk knownAs query _ :: rest, n, m, taken, inside, sound, alone, unbound, flat, given => by
      rw [Binding.allFlat, Bool.and_eq_true] at flat
      rw [Binding.bindAll] at given
      dsimp only at given
      split at given
      · cases given
      · split at given
        · cases given
        · obtain ⟨p, planned, given⟩ := bind_ok given
          obtain ⟨rows, named, given⟩ := bind_ok given
          have outside : inside = false := by
            cases inside with
            | true => exact absurd (unbound rfl) (by simp)
            | false => rfl
          have outermost := alone outside
          have typed : ∀ outer, rows.Typed known outer := by
            intro outer
            have planTyped := Query.plan_typed outer sound alone flat.1 planned
            rw [Names.seen, outermost] at planTyped
            exact TypedPlan.named_typed named planTyped
          have soundToo : (n.bind knownAs.name.name (.rows rows)).Sound known :=
            sound.bind (fun q same => Named.rows.inj same ▸ typed) knownAs.name.name
          obtain ⟨soundLast, same⟩ := Binding.bindAll_sound soundToo alone (by simp [outside]) flat.2 given
          exact ⟨soundLast, same⟩

theorem Body.plan_typed (beyond : List Seen) : ∀ {body : Body} {n : Names} {inside : Bool}
    {orderBy : List PendingKey} {p : TypedPlan}, n.Sound known →
      (inside = false → n.outer = []) → body.isFlat inside →
        (∀ k ∈ orderBy, k.pending.Sound known n beyond) → body.plan n orderBy = .ok p →
          p.Typed known (n.seen beyond)
  | .select select, n, inside, orderBy, p, sound, alone, flat, ordered, given => by
      rw [Body.isFlat] at flat
      rw [Body.plan] at given
      exact Select.plan_typed beyond sound alone flat ordered given
  | .query query, n, inside, orderBy, p, sound, alone, flat, ordered, given => by
      rw [Body.isFlat] at flat
      rw [Body.plan] at given
      obtain ⟨rows, planned, given⟩ := bind_ok given
      exact TypedPlan.orderBy_typed given (Query.plan_typed beyond sound alone flat planned) ordered
  | .values _ rows, n, inside, orderBy, p, sound, alone, flat, ordered, given => by
      rw [Body.isFlat] at flat
      rw [Body.plan] at given
      obtain ⟨listed, planned, given⟩ := bind_ok given
      exact TypedPlan.orderBy_typed given
        (TypedPlan.values_typed (Term.pendingRows_sound sound flat) planned) ordered
  | .combined left op quantifier right, n, inside, orderBy, p, sound, alone, flat, ordered,
      given => by
      rw [Body.isFlat, Bool.and_eq_true] at flat
      rw [Body.plan] at given
      dsimp only at given
      split at given
      · cases given
      · obtain ⟨l, leftPlanned, given⟩ := bind_ok given
        obtain ⟨r, rightPlanned, given⟩ := bind_ok given
        obtain ⟨both, united, given⟩ := bind_ok given
        have leftTyped := Body.plan_typed beyond sound alone flat.1 (List.forall_mem_nil _) leftPlanned
        have rightTyped :=
          Body.plan_typed beyond sound alone flat.2 (List.forall_mem_nil _) rightPlanned
        exact TypedPlan.orderBy_typed given (TypedPlan.union_typed united leftTyped rightTyped) ordered
  | .change _, n, inside, orderBy, p, _, _, _, _, given => by
      rw [Body.plan] at given
      cases given
  | .unsupported _, n, inside, orderBy, p, _, _, _, _, given => by
      rw [Body.plan] at given
      cases given

theorem Select.plan_typed (beyond : List Seen) : ∀ {select : Select} {n : Names} {inside : Bool}
    {orderBy : List PendingKey} {p : TypedPlan}, n.Sound known →
      (inside = false → n.outer = []) → select.isFlat inside →
        (∀ k ∈ orderBy, k.pending.Sound known n beyond) → select.plan n orderBy = .ok p →
          p.Typed known (n.seen beyond)
  | .mk distinct distinctOn items into source condition groupBy having _, n, inside, orderBy, p,
      sound, alone, flat, ordered, given => by
      simp only [Select.isFlat, Bool.and_eq_true] at flat
      rw [Select.plan] at given
      refine SqlEngine.Select.Parts.plan_typed ?_ given
      exact {
        distinctOn := Term.pendings?_sound sound flat.1.1.1.1.1
        items := SelectItem.pendings_sound sound flat.1.1.1.1.2
        source := fun rows planned => TableTerm.planAll_typed beyond sound alone flat.1.1.1.2 planned
        condition := Term.pending?_sound sound flat.1.1.2
        groupBy := Term.pendings?_sound sound flat.1.2
        having := Term.pending?_sound sound flat.2
        orderBy := ordered }

theorem TableTerm.plan_typed (beyond : List Seen) : ∀ {table : TableTerm} {n : Names}
    {inside : Bool} {p : TypedPlan}, n.Sound known → (inside = false → n.outer = []) →
      table.isFlat inside → table.plan n = .ok p → p.Typed known (n.seen beyond)
  | .named name args knownAs _, n, inside, p, sound, _, _, given => by
      rw [TableTerm.plan] at given
      exact TypedPlan.table_typed sound given
  | .derived lateral query knownAs, n, inside, p, sound, alone, flat, given => by
      rw [TableTerm.isFlat] at flat
      rw [TableTerm.plan] at given
      dsimp only at given
      split at given
      · cases given
      · obtain ⟨rows, planned, given⟩ := bind_ok given
        exact TypedPlan.knownAs_typed given (Query.plan_typed beyond sound alone flat planned)
  | .nested tables knownAs, n, inside, p, sound, alone, flat, given => by
      rw [TableTerm.isFlat] at flat
      rw [TableTerm.plan] at given
      obtain ⟨rows, planned, given⟩ := bind_ok given
      exact TypedPlan.knownAs_typed given (TableTerm.plan_typed beyond sound alone flat planned)
  | .cross left right, n, inside, p, sound, alone, flat, given => by
      rw [TableTerm.isFlat, Bool.and_eq_true] at flat
      rw [TableTerm.plan] at given
      obtain ⟨l, leftPlanned, given⟩ := bind_ok given
      obtain ⟨r, rightPlanned, given⟩ := bind_ok given
      cases given
      exact TypedPlan.join_typed (TableTerm.plan_typed beyond sound alone flat.1 leftPlanned)
        (TableTerm.plan_typed beyond sound alone flat.2 rightPlanned) (by simp)
  | .join left side right condition, n, inside, p, sound, alone, flat, given => by
      rw [TableTerm.isFlat, Bool.and_eq_true, Bool.and_eq_true] at flat
      rw [TableTerm.plan] at given
      obtain ⟨l, leftPlanned, given⟩ := bind_ok given
      obtain ⟨r, rightPlanned, given⟩ := bind_ok given
      have leftTyped := TableTerm.plan_typed beyond sound alone flat.1.1 leftPlanned
      have rightTyped := TableTerm.plan_typed beyond sound alone flat.1.2 rightPlanned
      split at given
      · exact TypedPlan.joinOn_typed given leftTyped rightTyped (Term.pending?_sound sound flat.2)
      · cases given
  | .joinUsing left side right columns, n, inside, p, sound, alone, flat, given => by
      rw [TableTerm.isFlat, Bool.and_eq_true] at flat
      rw [TableTerm.plan] at given
      obtain ⟨l, leftPlanned, given⟩ := bind_ok given
      obtain ⟨r, rightPlanned, given⟩ := bind_ok given
      have leftTyped := TableTerm.plan_typed beyond sound alone flat.1 leftPlanned
      have rightTyped := TableTerm.plan_typed beyond sound alone flat.2 rightPlanned
      split at given
      · exact TypedPlan.joinUsing_typed given leftTyped rightTyped
      · cases given
  | .joinNatural left side right, n, inside, p, _, _, _, given => by
      rw [TableTerm.plan] at given
      obtain ⟨l, _, given⟩ := bind_ok given
      obtain ⟨r, _, given⟩ := bind_ok given
      split at given <;> cases given
  | .apply left right outer, n, inside, p, _, _, _, given => by
      rw [TableTerm.plan] at given
      obtain ⟨l, _, given⟩ := bind_ok given
      obtain ⟨r, _, given⟩ := bind_ok given
      cases given
  | .unsupported _, n, inside, p, _, _, _, given => by
      rw [TableTerm.plan] at given
      cases given

theorem TableTerm.planAll_typed (beyond : List Seen) : ∀ {tables : List TableTerm} {n : Names}
    {inside : Bool} {p : TypedPlan}, n.Sound known → (inside = false → n.outer = []) →
      TableTerm.allFlat inside tables → TableTerm.planAll n tables = .ok p →
        p.Typed known (n.seen beyond)
  | [], n, inside, p, _, _, _, given => by
      rw [TableTerm.planAll] at given
      cases given
      exact TypedPlan.unit_typed
  | first :: rest, n, inside, p, sound, alone, flat, given => by
      rw [TableTerm.allFlat, Bool.and_eq_true] at flat
      rw [TableTerm.planAll] at given
      obtain ⟨left, planned, given⟩ := bind_ok given
      exact TableTerm.crossAll_typed beyond sound alone
        (TableTerm.plan_typed beyond sound alone flat.1 planned) flat.2 given

theorem TableTerm.crossAll_typed (beyond : List Seen) : ∀ {tables : List TableTerm} {n : Names}
    {inside : Bool} {left p : TypedPlan}, n.Sound known → (inside = false → n.outer = []) →
      left.Typed known (n.seen beyond) → TableTerm.allFlat inside tables →
        TableTerm.crossAll n left tables = .ok p → p.Typed known (n.seen beyond)
  | [], n, inside, left, p, _, _, leftTyped, _, given => by
      rw [TableTerm.crossAll] at given
      cases given
      exact leftTyped
  | next :: rest, n, inside, left, p, sound, alone, leftTyped, flat, given => by
      rw [TableTerm.allFlat, Bool.and_eq_true] at flat
      rw [TableTerm.crossAll] at given
      obtain ⟨right, planned, given⟩ := bind_ok given
      have rightTyped := TableTerm.plan_typed beyond sound alone flat.1 planned
      exact TableTerm.crossAll_typed beyond sound alone
        (TypedPlan.join_typed leftTyped rightTyped (by simp)) flat.2 given

end

variable {n : Names} {beyond : List Seen} {s : Scope} {t : Term} {e : Expr}

/-- A term over rows that no query encloses. -/
theorem Term.build_typed (sound : n.Sound known) (plain : s.keys = none) (flat : t.isFlat)
    (given : t.build n s = .ok e) : e.Typed known (.upon (n.seen beyond) s.types) :=
  have pending : (t.pending n).Sound known n beyond := fun _ _ => Term.compile_gives sound flat
  pending.alone plain given

/-- A term over no rows. -/
theorem Term.build_apart (sound : n.Sound known) (flat : t.isFlat) (given : t.build n .empty = .ok e) :
    e.Typed known (.apart (n.seen beyond)) := by
  have gives : Gives (n.Collects known beyond .empty) []
      (fun _ e => e.Typed known (.apart (n.seen beyond))) ((t.pending n).build .empty) := by
    refine (Term.compile_gives sound flat).bind fun e calls _ typed => Gives.lift fun built same => ?_
    have less : (n.around beyond .empty calls).Narrows (.apart (n.seen beyond)) :=
      ⟨Seen.Narrows.refl, Seen.Narrows.refl, Seen.narrows_refl _, fun _ _ _ => trivial⟩
    cases same
    exact typed.narrow less
  obtain ⟨_, typed⟩ := gives.alone given
  exact typed

theorem Term.condition_typed (sound : n.Sound known) (plain : s.keys = none) (flat : t.isFlat)
    (given : t.condition n s = .ok e) : e.Typed known (.upon (n.seen beyond) s.types) :=
  have pending : (t.pending n).Sound known n beyond := fun _ _ => Term.compile_gives sound flat
  pending.alone_condition plain given

end Sql

end SqlEngine
