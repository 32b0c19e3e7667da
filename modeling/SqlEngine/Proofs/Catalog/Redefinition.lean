import Mathlib.Data.List.Forall2
import SqlEngine.Expr.Eval
import SqlEngine.Proofs.Catalog.Linking

/-!
Tables with other definitions.

Where a table gets another definition under its name, all names go on standing for what they stood
for, and so does everything that evaluation asks the catalog.
-/

namespace SqlEngine

/-- The relations are the same, or they are tables of one name. -/
inductive Relation.Redefined : Relation → Relation → Prop
  | same (r : Relation) : Redefined r r
  | table {d e : TableDef} : e.name = d.name → Redefined (.table d) (.table e)

/-- A schema in which tables may have got other definitions. -/
structure Schema.Redefined (s t : Schema) : Prop where
  byName : t.byName = s.byName
  byTypeOid : t.byTypeOid = s.byTypeOid
  relations : ∀ id, Option.Rel Relation.Redefined (s.get? id) (t.get? id)

/-- A catalog in which tables may have got other definitions. -/
structure Catalog.Redefined (c next : Catalog) : Prop where
  schemas : List.Forall₂ (fun a b => b.1 = a.1 ∧ a.2.Redefined b.2) c.schemas next.schemas
  searchPath : next.searchPath = c.searchPath
  current : next.current = c.current
  functions : next.functions = c.functions

namespace Relation.Redefined

variable {r q : Relation}

theorem name (redefined : r.Redefined q) : q.name = r.name := by
  cases redefined with
  | same => rfl
  | table same => exact same

theorem kind (redefined : r.Redefined q) : q.kind = r.kind := by cases redefined <;> rfl

theorem type? (redefined : r.Redefined q) : q.type? = r.type? := by cases redefined <;> rfl

theorem sequence? (redefined : r.Redefined q) : q.sequence? = r.sequence? := by
  cases redefined <;> rfl

end Relation.Redefined

namespace Schema.Redefined

variable {s t : Schema} {d e : TableDef}

theorem refl (s : Schema) : s.Redefined s where
  byName := rfl
  byTypeOid := rfl
  relations id := by
    cases s.get? id with
    | none => exact .none
    | some r => exact .some (.same r)

theorem replace (increasing : Sorted.Increasing compare s.relations)
    (held : s.get? e.id = some (.table d)) (name : e.name = d.name) :
    s.Redefined (s.replace e.id (.table e)) where
  byName := rfl
  byTypeOid := rfl
  relations id := by
    have looked := Sorted.lookup_alter increasing e.id id fun _ => some (Relation.table e)
    have got : (s.replace e.id (.table e)).get? id = _ := looked
    rw [got]
    by_cases same : id = e.id
    · rw [if_pos same, same, held]
      exact .some (.table name)
    · rw [if_neg same]
      exact (refl s).relations id

theorem named? (redefined : s.Redefined t) (name : String) :
    Option.Rel (fun a b => b.1 = a.1 ∧ a.2.Redefined b.2) (s.named? name) (t.named? name) := by
  rw [Schema.named?, Schema.named?, redefined.byName]
  cases s.byName.lookup name with
  | none => exact .none
  | some id =>
      have held := redefined.relations id
      rw [Option.bind_some, Option.bind_some]
      generalize s.get? id = one, t.get? id = another at held
      cases held with
      | none => exact .none
      | some same => exact .some ⟨rfl, same⟩

theorem typeByOid? (redefined : s.Redefined t) (oid : Nat) : t.typeByOid? oid = s.typeByOid? oid := by
  rw [Schema.typeByOid?, Schema.typeByOid?, redefined.byTypeOid]
  cases s.byTypeOid.lookup oid with
  | none => rfl
  | some id =>
      have held := redefined.relations id
      rw [Option.bind_some, Option.bind_some]
      generalize s.get? id = one, t.get? id = another at held
      cases held with
      | none => rfl
      | some same => exact same.type?

end Schema.Redefined

section Lists

variable {α β γ δ : Type}

theorem findSome?_related (related : α → β → Prop) (both : γ → δ → Prop) {f : α → Option γ} {g : β → Option δ} {one : List α} {another : List β}
    (all : List.Forall₂ related one another) (each : ∀ a b, related a b → Option.Rel both (f a) (g b)) :
    Option.Rel both (one.findSome? f) (another.findSome? g) := by
  induction all with
  | nil => exact .none
  | @cons a b _ _ first _ ih =>
      have found := each a b first
      rw [List.findSome?_cons, List.findSome?_cons]
      generalize f a = x, g b = y at found
      cases found with
      | none => exact ih
      | some same => exact .some same

end Lists

namespace Catalog.Redefined

variable {c next : Catalog}

theorem schema? (redefined : c.Redefined next) (name : String) :
    Option.Rel Schema.Redefined (c.schema? name) (next.schema? name) := by
  obtain ⟨schemas, -, -, -⟩ := redefined
  rw [Catalog.schema?, Catalog.schema?]
  generalize c.schemas = one, next.schemas = another at schemas
  induction schemas with
  | nil => exact .none
  | @cons a b _ _ first _ ih =>
      obtain ⟨a, s⟩ := a
      obtain ⟨b, t⟩ := b
      obtain ⟨same, held⟩ := first
      dsimp only at same held
      rw [List.lookup_cons, List.lookup_cons, same]
      cases name == a with
      | true => exact .some held
      | false => exact ih

theorem find? (redefined : c.Redefined next) (name : QName) :
    Option.Rel (fun a b => b.1 = a.1 ∧ a.2.Redefined b.2) (c.find? name) (next.find? name) := by
  have inSchema : ∀ schema, Option.Rel (fun a b => b.1 = a.1 ∧ a.2.Redefined b.2)
      ((c.schema? schema).bind (·.named? name.name))
      ((next.schema? schema).bind (·.named? name.name)) := by
    intro schema
    have held := redefined.schema? schema
    generalize c.schema? schema = one, next.schema? schema = another at held
    cases held with
    | none => exact .none
    | some same => exact same.named? name.name
  unfold Catalog.find?
  split
  · exact inSchema _
  · rw [Catalog.visibleSchemas, Catalog.visibleSchemas, redefined.searchPath, redefined.current]
    exact findSome?_related Eq _ (List.forall₂_refl _) fun a _ same => same ▸ inSchema a

theorem findKind {α : Type} (redefined : c.Redefined next) {part : Relation → Option α}
    (same : ∀ r q : Relation, r.Redefined q → part q = part r) (name : QName) (kind : String) :
    next.findKind name kind part = c.findKind name kind part := by
  have found := redefined.find? name
  unfold Catalog.findKind
  generalize c.find? name = one, next.find? name = another at found
  cases found with
  | none => rfl
  | @some a b held =>
      obtain ⟨a, r⟩ := a
      obtain ⟨b, q⟩ := b
      dsimp only at held ⊢
      rw [same r q held.2, held.2.kind]

theorem sequence (redefined : c.Redefined next) (name : QName) :
    next.sequence name = c.sequence name :=
  redefined.findKind (fun _ _ => Relation.Redefined.sequence?) name _

theorem functionsNamed (redefined : c.Redefined next) (name : QName) :
    next.functionsNamed name = c.functionsNamed name := by
  simp only [Catalog.functionsNamed, Catalog.visibleSchemas, redefined.searchPath,
    redefined.current, redefined.functions]

theorem typeNamed (redefined : c.Redefined next) (name : TypeName) :
    next.typeNamed name = c.typeNamed name := by
  have found := redefined.find? ⟨name.schema, name.base⟩
  unfold Catalog.typeNamed
  generalize c.find? ⟨name.schema, name.base⟩ = one, next.find? ⟨name.schema, name.base⟩ = another
    at found
  cases found with
  | none => rfl
  | @some a b held =>
      obtain ⟨a, r⟩ := a
      obtain ⟨b, q⟩ := b
      cases held.2 with
      | same => cases r <;> rfl
      | table => rfl

theorem typeByOid? (redefined : c.Redefined next) (oid : Nat) :
    next.typeByOid? oid = c.typeByOid? oid := by
  have found := findSome?_related _ Eq redefined.schemas
    (f := fun e => e.2.typeByOid? oid) (g := fun e => e.2.typeByOid? oid) fun a b same => by
      rw [same.2.typeByOid? oid]
      cases a.2.typeByOid? oid with
      | none => exact .none
      | some t => exact .some rfl
  unfold Catalog.typeByOid?
  generalize c.schemas.findSome? _ = one, next.schemas.findSome? _ = another at found
  cases found with
  | none => rfl
  | some same => rw [same]

theorem relation?_name (redefined : c.Redefined next) (id : Nat) :
    (next.relation? id).map (·.2.name) = (c.relation? id).map (·.2.name) := by
  have found := findSome?_related _ (fun a b => b.2.name = a.2.name) redefined.schemas
    (f := fun e => (e.2.get? id).map (e.2, ·)) (g := fun e => (e.2.get? id).map (e.2, ·))
    fun a b same => by
      have held := same.2.relations id
      generalize a.2.get? id = one, b.2.get? id = another at held
      cases held with
      | none => exact .none
      | some same => exact .some same.name
  unfold Catalog.relation?
  generalize c.schemas.findSome? _ = one, next.schemas.findSome? _ = another at found
  cases found with
  | none => rfl
  | some same => exact congrArg some same

theorem registry (redefined : c.Redefined next) : next.registry = c.registry := by
  have types : next.typeOfText = c.typeOfText := funext fun text => redefined.typeNamed _
  have oids : next.typeByOid? = c.typeByOid? := funext redefined.typeByOid?
  have byId : next.registry.relationById? = c.registry.relationById? := by
    funext id
    have names := congrArg (Option.map (id, ·)) (redefined.relation?_name id)
    rw [Option.map_map, Option.map_map] at names
    exact names
  have byName : next.registry.relationByName = c.registry.relationByName := by
    funext text
    have found := redefined.find? (QName.ofText text)
    simp only [Catalog.registry]
    generalize c.find? (QName.ofText text) = one, next.find? (QName.ofText text) = another at found
    cases found with
    | none => rfl
    | some held => simp only [held.1, held.2.name]
  simp only [Catalog.registry, Registry.mk.injEq] at byId byName ⊢
  exact ⟨types, oids, trivial, byId, byName⟩

/-- The name of a table goes on standing for it, under the definition that it has now. -/
theorem table (redefined : c.Redefined next) (registered : c.Registered) (still : next.Registered)
    {name : QName} {d e : TableDef} (found : c.table name = .ok d)
    (held : next.Has d.schema d.id (.table e)) : next.table name = .ok e := by
  obtain ⟨id, r, there, part⟩ := Catalog.findKind_ok found
  obtain rfl := Catalog.table?_eq_some.mp part
  obtain ⟨schema, has⟩ := registered.ordered.find?_has there
  obtain ⟨rfl, rfl, -⟩ := registered.placed _ _ _ has
  have related := redefined.find? name
  rw [there] at related
  rcases known : next.find? name with _ | ⟨other, q⟩
  · rw [known] at related
    cases related
  · rw [known] at related
    obtain ⟨_, has⟩ := still.ordered.find?_has known
    cases related with
    | some same =>
        -- what the name stands for now has the same number, and only one relation has it
        obtain ⟨rfl, -⟩ := same
        rw [Catalog.table, Catalog.findKind, known, still.relation_unique has held]
        rfl

end Catalog.Redefined

theorem Catalog.Ordered.replaceTable_redefined {c next : Catalog} (ordered : c.Ordered)
    {d e : TableDef} (held : c.Has d.schema d.id (.table d)) (id : e.id = d.id)
    (schema : e.schema = d.schema) (name : e.name = d.name) (replaced : c.replaceTable e = .ok next) :
    c.Redefined next := by
  obtain ⟨s, writable, replaced⟩ := Run.bind_ok replaced
  have there := writable_ok writable
  split at replaced
  · cases replaced
    have member := ordered.schema?_iff.mp there
    have own : s.get? e.id = some (.table d) :=
      (ordered.get?_iff there).mpr (id.symm ▸ schema.symm ▸ held)
    obtain ⟨before, after, cut, inserted⟩ := Sorted.insert_split ordered.schemas member
    refine ⟨?_, rfl, rfl, rfl⟩
    -- the schemas in front of the changed one and behind it stay as they are
    have kept : ∀ entries : List (String × Schema),
        List.Forall₂ (fun a b => b.1 = a.1 ∧ a.2.Redefined b.2) entries entries := fun entries =>
      List.forall₂_same.mpr fun _ _ => ⟨rfl, .refl _⟩
    rw [Catalog.putSchema, inserted, cut]
    exact List.rel_append (kept before)
      (.cons ⟨rfl, .replace (ordered.relations _ member) own name⟩ (kept after))
  · cases replaced

/-! ### Evaluation -/

/-- Conversions and functions do the same in both surroundings. -/
structure Env.Alike (env other : Env) : Prop where
  registry : other.catalog.registry = env.catalog.registry
  runs : ∀ (f : Builtin) type values, f.run other type values = f.run env type values

theorem Catalog.Redefined.env {c next : Catalog} (redefined : c.Redefined next) (now : Timestamp) :
    Env.Alike ⟨c, now⟩ ⟨next, now⟩ where
  registry := redefined.registry
  runs f type values := by
    have sequences : ∀ (use : SequenceDef → Eval Value) v,
        Builtin.withSequence ⟨next, now⟩ use v = Builtin.withSequence ⟨c, now⟩ use v := by
      intro use v
      cases v <;> simp only [Builtin.withSequence, redefined.sequence]
    cases f with
    | nextValue => exact sequences _ _
    | currentValue => exact sequences _ _
    | setValue => exact sequences _ _
    | currentSchema => simp only [Builtin.run, redefined.current]
    | currentSetting => simp only [Builtin.run, Settings.read, Settings.defaults, redefined.searchPath]
    | _ => rfl

variable {env other : Env}

theorem Op.perform_alike_env (alike : env.Alike other) (type : SqlType) (argTypes : List SqlType) (op : Op)
    (args : List (Eval Value)) : op.perform other type argTypes args = op.perform env type argTypes args := by
  cases op with
  | convert c => simp only [perform, alike.registry]
  | builtin f => cases f <;> simp only [perform, alike.runs]
  | _ => rfl

mutual

theorem Expr.eval_alike_env (alike : env.Alike other) (outer : List Row) (row : Row) :
    ∀ e : Expr, e.eval other outer row = e.eval env outer row
  | .constant .. | .column .. | .outer .. | .aggregate .. => by simp only [Expr.eval]
  | .apply op args type => by
      simp only [Expr.eval, Expr.actions_alike_env alike outer row args, Op.perform_alike_env alike]
  | .call f args => by simp only [Expr.eval, Expr.actions_alike_env alike outer row args]
  | .scalar query _ => by simp only [Expr.eval, Plan.cursor_alike_env alike (row :: outer) query]
  | .hasRows query _ => by simp only [Expr.eval, Plan.cursor_alike_env alike (row :: outer) query]
  | .among arg query _ _ => by
      simp only [Expr.eval, Expr.eval_alike_env alike outer row arg,
        Plan.cursor_alike_env alike (row :: outer) query]

theorem Expr.actions_alike_env (alike : env.Alike other) (outer : List Row) (row : Row) :
    ∀ es : List Expr, Expr.actions other outer row es = Expr.actions env outer row es
  | [] => by simp only [Expr.actions]
  | e :: rest => by
      simp only [Expr.actions, Expr.eval_alike_env alike outer row e,
        Expr.actions_alike_env alike outer row rest]

theorem Plan.cursor_alike_env (alike : env.Alike other) (outer : List Row) :
    ∀ p : Plan, p.cursor other outer = p.cursor env outer
  | .values rows => by simp only [Plan.cursor, Plan.valuesCursor_alike_env alike outer rows]
  | .fixed _ | .scan _ => by simp only [Plan.cursor]
  | .filter source condition => by
      simp only [Plan.cursor, Plan.cursor_alike_env alike outer source,
        fun row => Expr.eval_alike_env alike outer row condition]
  | .project source items => by
      simp only [Plan.cursor, Plan.cursor_alike_env alike outer source,
        fun row => Expr.actions_alike_env alike outer row items]
  | .join left right _ _ _ condition => by
      simp only [Plan.cursor, Plan.cursor_alike_env alike outer left,
        Plan.cursor_alike_env alike outer right, fun row => Expr.eval_alike_env alike outer row condition]
  | .lookupJoin left _ _ key _ condition => by
      simp only [Plan.cursor, Plan.cursor_alike_env alike outer left,
        fun row => Expr.eval_alike_env alike outer row key,
        fun row => Expr.eval_alike_env alike outer row condition]
  | .group source keys _ args => by
      simp only [Plan.cursor, Plan.cursor_alike_env alike outer source,
        fun row => Expr.actions_alike_env alike outer row keys,
        fun row => Expr.actions_alike_env alike outer row args]
  | .order source keys _ => by
      simp only [Plan.cursor, Plan.cursor_alike_env alike outer source,
        fun row => Expr.actions_alike_env alike outer row keys]
  | .distinct source _ => by simp only [Plan.cursor, Plan.cursor_alike_env alike outer source]
  | .distinctOn source keys => by
      simp only [Plan.cursor, Plan.cursor_alike_env alike outer source,
        fun row => Expr.actions_alike_env alike outer row keys]
  | .limit source _ _ => by simp only [Plan.cursor, Plan.cursor_alike_env alike outer source]
  | .union left right _ _ => by
      simp only [Plan.cursor, Plan.cursor_alike_env alike outer left,
        Plan.cursor_alike_env alike outer right]

theorem Plan.valuesCursor_alike_env (alike : env.Alike other) (outer : List Row) :
    ∀ rows : List (List Expr), Plan.valuesCursor other outer rows = Plan.valuesCursor env outer rows
  | [] => by simp only [Plan.valuesCursor]
  | items :: rest => by
      simp only [Plan.valuesCursor, Expr.actions_alike_env alike outer [] items,
        Plan.valuesCursor_alike_env alike outer rest]

end

end SqlEngine
