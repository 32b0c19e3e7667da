import SqlEngine.Proofs.Typing.Selects

/-!
Joins, unions, lists of rows, orders and limits of typed plans are typed.
-/

namespace SqlEngine

open Run (bind_ok mapM_ok)
open Build (Gives)

theorem Run.mapM_forall₂ {ε α β : Type} {f : α → Except ε β} {items : List α} {images : List β}
    (mapped : items.mapM f = .ok images) :
    List.Forall₂ (fun a b => f a = .ok b) items images := by
  induction items generalizing images with
  | nil =>
      cases mapped
      exact List.Forall₂.nil
  | cons a rest ih =>
      rw [List.mapM_cons] at mapped
      obtain ⟨b, one, mapped⟩ := bind_ok mapped
      obtain ⟨bs, more, mapped⟩ := bind_ok mapped
      cases mapped
      exact List.Forall₂.cons one (ih more)

namespace TypedPlan

variable {known : TableDef → Prop} {outer : List Seen} {left right : TypedPlan} {e : Expr}

/-! ### Joins -/

/-- What is typed over joined rows is typed over the left ones alone. -/
theorem narrows_left (lefts rights : List SqlType) :
    (Surroundings.upon outer (lefts ++ rights)).Narrows (.upon outer lefts) where
  row := Seen.Narrows.some (List.prefix_append _ _)
  inner := Seen.Narrows.some (List.prefix_append _ _)
  outer := Seen.narrows_refl _
  calls := fun _ _ => id

theorem equalKey?_typed {width position : Nat} {around : Surroundings} {condition key : Expr}
    {type : SqlType} (found : equalKey? width condition = some (position, key, type))
    (typed : condition.Typed known around) : key.Typed known around := by
  unfold equalKey? at found
  split at found
  · obtain ⟨⟨first, second, _⟩, _⟩ := typed
    dsimp only at found
    split at found
    · split at found <;> cases found
      exact second
    · split at found <;> cases found
      exact first
    · cases found
  · cases found

/-- The join through an index of the table on the right. -/
theorem lookup?_some {kind : JoinKind} {condition : Expr} {plan : Plan}
    (found : left.lookup? right kind condition = some plan) : (kind = .inner ∨ kind = .left) ∧
      ∃ table position key type, ∃ i ∈ table.indexes, right.bare = some table ∧
        equalKey? left.columns.length condition = some (position, key, type) ∧
        table.columns[position]?.map (·.type) = some type ∧ i.columns = [position] ∧
        plan = .lookupJoin left.plan table i.id key (kind == .left) condition := by
  obtain ⟨_, either, found⟩ := Option.bind_eq_some_iff.mp found
  obtain ⟨table, bare, found⟩ := Option.bind_eq_some_iff.mp found
  obtain ⟨⟨position, key, type⟩, equal, found⟩ := Option.bind_eq_some_iff.mp found
  obtain ⟨_, column, found⟩ := Option.bind_eq_some_iff.mp found
  obtain ⟨index, indexed, same⟩ := Option.bind_eq_some_iff.mp found
  cases same
  have served : kind = .inner ∨ kind = .left := by
    simpa [guard, or_iff_not_imp_left] using either
  have columns : index.columns = [position] := by simpa using List.find?_some indexed
  exact ⟨served, table, position, key, type, index, List.mem_of_find?_eq_some indexed, bare, equal,
    by simpa [guard] using column, columns, rfl⟩

theorem lookup?_typed {kind : JoinKind} {condition : Expr} {plan : Plan}
    (found : left.lookup? right kind condition = some plan) (leftTyped : left.Typed known outer)
    (rightTyped : right.Typed known outer)
    (typed : condition.Typed known (.upon outer (left.types ++ right.types))) :
    plan.Typed known outer (left.types ++ right.types) := by
  obtain ⟨_, table, _, _, _, _, _, bare, equal, _, _, rfl⟩ := lookup?_some found
  obtain ⟨held, types⟩ := rightTyped.2 table bare
  refine ⟨left.types, leftTyped.1, held, ?_, by rw [types], typed⟩
  exact (equalKey?_typed equal typed).narrow (narrows_left _ _)

theorem types_join (kind : JoinKind) (condition : Option Expr) :
    (left.join right kind condition).types = left.types ++ right.types := by
  simp [TypedPlan.types, TypedPlan.join]

theorem join_typed {kind : JoinKind} {condition : Option Expr}
    (leftTyped : left.Typed known outer) (rightTyped : right.Typed known outer)
    (typed : ∀ e ∈ condition, e.Typed known (.upon outer (left.types ++ right.types))) :
    (left.join right kind condition).Typed known outer := by
  refine ⟨?_, by simp [TypedPlan.join]⟩
  rw [types_join]
  have nested : ∀ e : Expr, e.Typed known (.upon outer (left.types ++ right.types)) →
      (Plan.join left.plan right.plan kind left.columns.length right.columns.length e).Typed known
        outer (left.types ++ right.types) := fun e conditionTyped =>
    ⟨left.types, right.types, leftTyped.1, rightTyped.1, by simp [TypedPlan.types],
      by simp [TypedPlan.types], rfl, conditionTyped⟩
  cases condition with
  | none => exact nested _ (SqlType.admits_bool true)
  | some e =>
      have conditionTyped := typed e rfl
      simp only [TypedPlan.join, Option.bind_some, Option.getD_some]
      cases found : left.lookup? right kind e with
      | none => exact nested e conditionTyped
      | some plan => exact lookup?_typed found leftTyped rightTyped conditionTyped

theorem usingColumn_ok {columns : List Column} {name side : String} {position : Nat} {c : Column}
    (found : usingColumn columns name side = .ok (position, c)) :
    columns[position]? = some c := by
  unfold usingColumn at found
  split at found
  · rename_i c' position' there
    cases found
    simpa using List.mem_zipIdx_iff_getElem?.mp (List.mem_of_find?_eq_some there)
  · cases found

theorem at_left {position : Nat} {c : Column} (found : left.columns[position]? = some c) :
    SqlType.At (left.types ++ right.types) position c.type := by
  intro t there
  have inside : position < left.types.length := by
    rw [TypedPlan.types, List.length_map]
    exact (List.getElem?_eq_some_iff.mp found).1
  rw [List.getElem?_append_left inside, TypedPlan.types, List.getElem?_map, found] at there
  exact (Option.some.inj there).symm

theorem at_right {position : Nat} {c : Column} (found : right.columns[position]? = some c) :
    SqlType.At (left.types ++ right.types) (left.columns.length + position) c.type := by
  intro t there
  have width : left.columns.length = left.types.length := by simp [TypedPlan.types]
  rw [width, List.getElem?_append_right (by omega), Nat.add_sub_cancel_left, TypedPlan.types,
    List.getElem?_map, found] at there
  exact (Option.some.inj there).symm

theorem usingCondition_typed {n : Names} {name : String}
    (given : usingCondition n left right name = .ok e) :
    e.Typed known (.upon outer (left.types ++ right.types)) := by
  obtain ⟨⟨l, lc⟩, leftFound, given⟩ := bind_ok given
  obtain ⟨⟨r, rc⟩, rightFound, given⟩ := bind_ok given
  have leftTyped : (Expr.column l lc.type).Typed known (.upon outer (left.types ++ right.types)) :=
    ⟨_, rfl, at_left (usingColumn_ok leftFound)⟩
  have rightTyped : (Expr.column (left.columns.length + r) rc.type).Typed known
      (.upon outer (left.types ++ right.types)) := ⟨_, rfl, at_right (usingColumn_ok rightFound)⟩
  exact (Expr.comparison_typed given leftTyped rightTyped).1

theorem allOf_typed {around : Surroundings} {conditions : List Expr}
    (typed : ∀ e ∈ conditions, e.Typed known around) :
    ∀ e ∈ allOf conditions, e.Typed known around := by
  cases conditions with
  | nil => simp [allOf]
  | cons first rest =>
      obtain ⟨firstTyped, others⟩ := List.forall_mem_cons.mp typed
      rintro _ ⟨⟩
      induction rest generalizing first with
      | nil => exact firstTyped
      | cons next rest ih =>
          obtain ⟨nextTyped, others⟩ := List.forall_mem_cons.mp others
          have both : (Expr.apply .conjunction [first, next] .bool).Typed known around :=
            Build.test_apply rfl (by simpa using ⟨firstTyped, nextTyped⟩)
          exact ih _ (List.forall_mem_cons.mpr ⟨both, others⟩) both others

theorem joinUsing_typed {n : Names} {kind : JoinKind} {names : List String} {joined : TypedPlan}
    (given : joinUsing n left right kind names = .ok joined) (leftTyped : left.Typed known outer)
    (rightTyped : right.Typed known outer) : joined.Typed known outer := by
  obtain ⟨conditions, mapped, given⟩ := bind_ok given
  cases given
  have typed : (left.join right kind (allOf conditions)).Typed known outer :=
    join_typed leftTyped rightTyped
      (allOf_typed (mapM_ok (fun _ _ _ => usingCondition_typed) mapped))
  refine typed_of_types typed.1 ?_ rfl
  rw [types_join]
  simp only [TypedPlan.types, List.map_append, List.map_map]
  congr 2
  funext c
  simp only [Function.comp_apply]
  split <;> rfl

/-! ### Unions -/

theorem outputs_typed (p : TypedPlan) : ∀ e ∈ p.outputs, e.Typed known (.upon outer p.types) := by
  intro e member
  obtain ⟨⟨c, position⟩, there, rfl⟩ := List.mem_map.mp member
  refine ⟨_, rfl, fun t found => ?_⟩
  have column : p.columns[position]? = some c := by
    simpa using List.mem_zipIdx_iff_getElem?.mp there
  change p.types[position]? = some t at found
  rw [TypedPlan.types, List.getElem?_map, column] at found
  exact (Option.some.inj found).symm

theorem types_of_converted {registry : Registry} {items : List ((Expr × SqlType) × Nat)}
    {explicit : (Expr × SqlType) × Nat → Bool} {converted : List Expr} {around : Surroundings}
    (typed : ∀ item ∈ items, item.1.1.Typed known around)
    (mapped : List.Forall₂ (fun item e =>
      item.1.1.convert registry item.1.2 (explicit item) = .ok e)
      items converted) :
    (∀ e ∈ converted, e.Typed known around) ∧
      converted.map Expr.type = (items.map Prod.fst).map Prod.snd := by
  induction mapped with
  | nil => simp
  | cons one _ ih =>
      obtain ⟨first, others⟩ := List.forall_mem_cons.mp typed
      obtain ⟨rest, same⟩ := ih others
      obtain ⟨firstTyped, sameFirst⟩ := Expr.convert_typed one first
      exact ⟨List.forall_mem_cons.mpr ⟨firstTyped, rest⟩,
        by rw [List.map_cons, List.map_cons, List.map_cons, sameFirst, same]⟩

theorem convertColumns_typed {n : Names} {p converted : TypedPlan} {types : List SqlType}
    (given : convertColumns n p types = .ok converted) (typed : p.Typed known outer)
    (width : types.length = p.columns.length) :
    converted.Typed known outer ∧ converted.types = types := by
  unfold convertColumns at given
  dsimp only at given
  split at given
  · rename_i same
    cases given
    exact ⟨typed, same⟩
  · obtain ⟨items, mapped, given⟩ := bind_ok given
    cases given
    have related := Run.mapM_forall₂ mapped
    have outputs : ∀ item ∈ (p.outputs.zip types).zipIdx, item.1.1.Typed known (.upon outer p.types) := by
      rintro ⟨⟨e, type⟩, position⟩ member
      exact outputs_typed p e (List.of_mem_zip (List.fst_mem_of_mem_zipIdx member)).1
    obtain ⟨each, same⟩ := types_of_converted outputs related
    have count : p.outputs.length = types.length := by simp [TypedPlan.outputs, width]
    have types' : items.map Expr.type = types := by
      rw [same, List.zipIdx_map_fst, List.map_snd_zip (by omega)]
    have lengths := related.length_eq
    simp only [List.length_zipIdx, List.length_zip] at lengths
    have kept : ((p.columns.map (·.name)).zip items).map (·.2) = items :=
      List.map_snd_zip (by rw [List.length_map]; omega)
    refine ⟨project_typed typed.1 ?_, ?_⟩
    · intro item member
      exact each item.2 (List.of_mem_zip member).2
    · rw [types_project, kept, types']

theorem union_typed {n : Names} {all : Bool} {combined : TypedPlan}
    (given : union n left right all = .ok combined) (leftTyped : left.Typed known outer)
    (rightTyped : right.Typed known outer) : combined.Typed known outer := by
  unfold TypedPlan.union at given
  dsimp only at given
  split at given
  · cases given
  · rename_i sameWidth
    obtain ⟨types, mapped, given⟩ := bind_ok given
    obtain ⟨convertedLeft, leftConverted, given⟩ := bind_ok given
    obtain ⟨convertedRight, rightConverted, given⟩ := bind_ok given
    cases given
    have count := (Run.mapM_forall₂ mapped).length_eq
    simp only [TypedPlan.types, List.length_zipIdx, List.length_zip, List.length_map] at count
    obtain ⟨leftTyped, leftTypes⟩ := convertColumns_typed leftConverted leftTyped (by omega)
    obtain ⟨rightTyped, rightTypes⟩ := convertColumns_typed rightConverted rightTyped (by omega)
    refine typed_of_types ⟨leftTypes ▸ leftTyped.1, rightTypes ▸ rightTyped.1⟩ ?_ rfl
    simp only [TypedPlan.types, List.map_map] at leftTypes ⊢
    exact leftTypes

/-! ### Lists of rows -/

variable {n : Names} {beyond : List Seen}

theorem values_row_typed {row : List Pending} {built : List Expr}
    (sound : ∀ p ∈ row, p.Sound known n beyond)
    (given : row.mapM (fun p => (p.build .empty).alone) = .ok built) :
    (∀ e ∈ built, e.Typed known (.upon (n.seen beyond) [])) ∧ built.length = row.length := by
  have plain : Scope.empty.keys = none := rfl
  exact ⟨mapM_ok (fun p member e found => (sound p member).alone plain found) given,
    (Run.mapM_forall₂ given).length_eq.symm⟩

theorem coerced_row_typed {registry : Registry} {around : Surroundings} {row converted : List Expr}
    {types : List SqlType} (typed : ∀ e ∈ row, e.Typed known around)
    (width : types.length = row.length)
    (given : (row.zip types).mapM (fun (e, type) => e.coerce registry type) = .ok converted) :
    (∀ e ∈ converted, e.Typed known around) ∧ converted.map Expr.type = types := by
  induction row generalizing types converted with
  | nil =>
      cases types with
      | nil =>
          cases given
          simp
      | cons => simp at width
  | cons e rest ih =>
      cases types with
      | nil => simp at width
      | cons type types =>
          obtain ⟨firstTyped, others⟩ := List.forall_mem_cons.mp typed
          rw [List.zip_cons_cons, List.mapM_cons] at given
          obtain ⟨first, coerced, given⟩ := bind_ok given
          obtain ⟨more, mapped, given⟩ := bind_ok given
          cases given
          obtain ⟨each, same⟩ := ih others (by simpa using width) mapped
          obtain ⟨firstTyped, sameFirst⟩ := Expr.coerce_typed coerced firstTyped
          exact ⟨List.forall_mem_cons.mpr ⟨firstTyped, each⟩,
            by rw [List.map_cons, sameFirst, same]⟩

theorem values_typed {rows : List (List Pending)} {listed : TypedPlan}
    (sound : ∀ row ∈ rows, ∀ p ∈ row, p.Sound known n beyond)
    (given : values n rows = .ok listed) : listed.Typed known (n.seen beyond) := by
  obtain ⟨built, mapped, given⟩ := bind_ok given
  obtain ⟨types, common, given⟩ := bind_ok given
  obtain ⟨converted, coerced, given⟩ := bind_ok given
  cases given
  have rowsTyped : ∀ row ∈ built, (∀ e ∈ row, e.Typed known (.upon (n.seen beyond) [])) ∧
      row.length = (rows.head?.map List.length).getD 0 := by
    refine mapM_ok (fun row member made found => ?_) mapped
    dsimp only at found
    split at found
    · cases found
    · rename_i sameWidth
      obtain ⟨each, length⟩ := values_row_typed (sound row member) found
      exact ⟨each, by omega⟩
  have count := (Run.mapM_forall₂ common).length_eq
  rw [List.length_range] at count
  have convertedTyped : ∀ row ∈ converted,
      Expr.AllTyped known (.upon (n.seen beyond) []) row ∧ row.map Expr.type = types := by
    refine mapM_ok (fun row member made found => ?_) coerced
    obtain ⟨each, length⟩ := rowsTyped row member
    obtain ⟨madeTyped, same⟩ := coerced_row_typed each (by omega) found
    exact ⟨Expr.allTyped_iff.mpr madeTyped, same⟩
  have allTyped : (Plan.values converted).Typed known (n.seen beyond) types :=
    Plan.rowsTyped_iff.mpr convertedTyped
  refine typed_of_types allTyped (types_zipWith ?_) rfl
  rw [List.length_map, List.length_range]
  omega

/-! ### Orders and limits -/

theorem orderBy_typed {p ordered : TypedPlan} {keys : List PendingKey}
    (given : p.orderBy keys = .ok ordered) (typed : p.Typed known (n.seen beyond))
    (sound : ∀ k ∈ keys, k.pending.Sound known n beyond) :
    ordered.Typed known (n.seen beyond) := by
  unfold TypedPlan.orderBy at given
  split at given
  · cases given
    exact typed
  · obtain ⟨built, mapped, given⟩ := bind_ok given
    cases given
    have plain : (Scope.ofColumns p.columns).keys = none := rfl
    have complete : Select.Completed known n beyond (.ofColumns p.columns) []
        ((p.columns.map (·.name)).zip p.outputs) := by
      intro output member more _
      exact outputs_typed p output.2 (List.of_mem_zip member).2
    have each : ∀ e ∈ built, e.Typed known (.upon (n.seen beyond) p.types) := by
      refine mapM_ok (fun k member e found => ?_) mapped
      obtain ⟨calls, built⟩ := (Select.key_gives (.plain plain) (sound k member) complete).alone found
      exact built.plain plain
    exact ⟨⟨typed.1, Expr.allTyped_iff.mpr each⟩, typed.2⟩

theorem limited_typed {p kept : TypedPlan} {limit offset : Option Pending}
    (given : p.limited n limit offset = .ok kept) (typed : p.Typed known outer) :
    kept.Typed known outer := by
  obtain ⟨_, _, given⟩ := bind_ok given
  obtain ⟨_, _, given⟩ := bind_ok given
  dsimp only at given
  split at given <;> cases given <;> exact typed

/-! ### Tables -/

theorem knownAs_typed {p named : TypedPlan} {other : Option Sql.TableAlias}
    (given : p.knownAs other = .ok named) (typed : p.Typed known outer) :
    named.Typed known outer := by
  cases other with
  | none =>
      cases given
      exact typed
  | some a => exact named_typed given typed

theorem ofName_typed {name : List Sql.Ident} {knownAs : Option String} {p : TypedPlan}
    (sound : n.Sound known) (given : ofName n name knownAs = .ok p) : p.Typed known outer := by
  obtain ⟨qname, _, given⟩ := bind_ok given
  split at given
  · rename_i bound found
    split at found
    · obtain ⟨before, after, there, _⟩ := List.lookup_eq_some_iff.mp found
      have member : (qname.name, Named.rows bound) ∈ n.bindings := by simp [there]
      exact named_typed given (sound.bindings _ _ member outer)
    · cases found
  · cases given
  · obtain ⟨d, found, given⟩ := bind_ok given
    cases given
    exact scan_typed (sound.tables _ d found)

theorem table_typed {name : List Sql.Ident} {other : Option Sql.TableAlias} {isCall : Bool}
    {p : TypedPlan} (sound : n.Sound known) (given : table n name other isCall = .ok p) :
    p.Typed known outer := by
  unfold TypedPlan.table at given
  dsimp only at given
  split at given
  · cases given
  · obtain ⟨named, found, given⟩ := bind_ok given
    have typed : named.Typed known outer := ofName_typed sound found
    split at given
    · split at given
      · cases given
        exact typed
      · exact knownAs_typed given typed
    · cases given
      exact typed

theorem joinOn_typed {kind : JoinKind} {condition : Option Pending} {joined : TypedPlan}
    (given : joinOn n left right kind condition = .ok joined)
    (leftTyped : left.Typed known (n.seen beyond)) (rightTyped : right.Typed known (n.seen beyond))
    (sound : ∀ c ∈ condition, c.Sound known n beyond) : joined.Typed known (n.seen beyond) := by
  unfold TypedPlan.joinOn at given
  split at given
  · cases given
    exact join_typed leftTyped rightTyped (by simp)
  · rename_i c
    obtain ⟨e, built, given⟩ := bind_ok given
    cases given
    refine join_typed leftTyped rightTyped ?_
    rintro _ ⟨⟩
    have plain : (Scope.ofColumns (left.columns ++ right.columns)).keys = none := rfl
    have typed := (sound c rfl).alone_condition plain built
    have types : (Scope.ofColumns (left.columns ++ right.columns)).types =
        left.types ++ right.types := List.map_append
    exact types ▸ typed

end TypedPlan

end SqlEngine
