import SqlEngine.Proofs.Database.Agreement
import SqlEngine.Proofs.Database.StatementFrame
import SqlEngine.Proofs.Typing.Compilation

/-!
Rows that statements write.

What a statement writes to a table are rows of the types of its columns: values that were assigned
to a column were converted for it, and so was its default. So the content goes with the definition
after every change of a row.
-/

namespace SqlEngine

open Eval (Keeps Meets)
open EvalState (Agrees)
open Run (bind_ok)

theorem Eval.Meets.mapM_related {α β : Type} {inv : EvalState → Prop} {related : α → β → Prop}
    {f : α → Eval β} : ∀ {items : List α}, (∀ a ∈ items, (f a).Meets inv (related a)) →
      Meets inv (List.Forall₂ related items) (items.mapM f) := by
  intro items
  induction items with
  | nil =>
      intro _
      rw [List.mapM_nil]
      exact Meets.pure List.Forall₂.nil
  | cons a rest ih =>
      intro each
      rw [List.mapM_cons]
      refine (each a List.mem_cons_self).bind fun b first => ?_
      refine (ih fun other member => each other (List.mem_cons_of_mem _ member)).bind fun bs later => ?_
      exact Meets.pure (List.Forall₂.cons first later)

theorem Row.Fits.set {types : List SqlType} {row : Row} (fits : Row.Fits types row) :
    ∀ {position : Nat} {v : Value}, (∀ type ∈ types[position]?, type.Admits v) →
      Row.Fits types (row.set position v) := by
  induction fits with
  | nil => exact fun _ => List.Forall₂.nil
  | cons first rest ih =>
      intro position v admitted
      cases position with
      | zero => exact List.Forall₂.cons (admitted _ rfl) rest
      | succ before => exact List.Forall₂.cons first (ih admitted)

theorem TableDef.types_eq_map_typeAt (d : TableDef) :
    d.types = (List.range d.columns.length).map d.typeAt := by
  refine List.ext_getElem (by simp [types]) fun position inside _ => ?_
  have there : d.types[position]? = some d.types[position] := List.getElem?_eq_getElem inside
  simp [typeAt_eq, there]

theorem TableData.Conforms.get? {content : TableData} {d : TableDef} {id : RowId} {row : Row}
    (conforms : content.Conforms d) (found : content.get? id = some row) : Row.Fits d.types row :=
  conforms.fits _ ((get?_eq_some_iff conforms.shape id row).mp found)

theorem Names.seen_nil {n : Names} (alone : n.outer = []) : n.seen [] = [] := by
  rw [Names.seen, alone, List.map_nil, List.nil_append]

/-- The names at the top of a statement over the tables of a catalog. -/
structure Names.Outermost (c : Catalog) (n : Names) : Prop where
  sound : n.Sound c.Table
  alone : n.outer = []

/-- The expression gives values of the type over rows of the types. -/
abbrev Catalog.Gives (c : Catalog) (row : List SqlType) (type : SqlType) (e : Expr) : Prop :=
  e.Typed c.Table (.upon [] row) ∧ e.type = type

variable {c : Catalog} {now : Timestamp} {base : List (Level DataKey DataValue)} {n : Names}
  {d : TableDef} {t : Target} {row : Row} {types : List SqlType} {type : SqlType} {e : Expr}

theorem Catalog.Sound.outermost (sound : c.Sound) : (Names.ofCatalog c).Outermost c where
  sound := by
    refine ⟨fun name d found => ?_, sound.functions, fun _ _ member => by cases member⟩
    obtain ⟨schema, id, has⟩ := sound.ordered.table_has found
    exact (sound.has_table has).2.2
  alone := rfl

theorem Catalog.Gives.eval (sound : c.Sound) (gives : c.Gives types type e)
    (fits : Row.Fits types row) :
    (e.eval ⟨c, now⟩ [] row).Meets (EvalState.Agrees c base) type.Admits :=
  gives.2 ▸ gives.1.eval (EvalState.Agrees.stable sound base now) (EvalState.Agrees.typed c base)
    (.upon .nil fits)

/-- A value that is assigned to a column is of its type. -/
theorem Sql.Term.assigned_gives {term : Sql.Term} {s : Scope} {first : Expr}
    (names : n.Outermost c) (plain : s.keys = none) (flat : term.isFlat)
    (built : term.build n s = .ok first) (given : first.assigned n.registry type = .ok e) :
    c.Gives s.types type e := by
  have typed : first.Typed c.Table (.upon (n.seen []) s.types) :=
    Sql.Term.build_typed names.sound plain flat built
  rw [Names.seen_nil names.alone] at typed
  exact Expr.assigned_typed given typed

namespace Target

/-- A target for a table of the catalog. The default of each column is a value of it. -/
structure Sound (c : Catalog) (t : Target) : Prop where
  held : c.Table t.table
  types : t.scope.types = t.table.types
  plain : t.scope.keys = none
  defaults : ∀ column, (t.default column).Typed c.Table (.apart []) ∧
    (t.default column).type = t.table.typeAt column

theorem compileDefault_typed {column : ColumnDef} {default? : Option Expr}
    (names : n.Outermost c) (flat : Sql.Term.optionFlat column.default)
    (given : compileDefault n column = .ok default?) :
    ∀ e ∈ default?, e.Typed c.Table (.apart []) ∧ e.type = column.type := by
  intro e same
  cases same
  unfold compileDefault at given
  cases written : column.default with
  | none =>
      rw [written] at given
      cases given
  | some term =>
      rw [written] at given flat
      obtain ⟨e, one, given⟩ := bind_ok given
      cases given
      obtain ⟨first, built, assigned⟩ := bind_ok one
      have typed : first.Typed c.Table (.apart (n.seen [])) :=
        Sql.Term.build_apart names.sound flat built
      rw [Names.seen_nil names.alone] at typed
      exact Expr.assigned_typed assigned typed

theorem ofTable_sound {knownAs : Option String} (names : n.Outermost c) (held : c.Table d)
    (flat : d.Flat) (given : ofTable n d knownAs = .ok t) : t.Sound c ∧ t.table = d := by
  obtain ⟨defaults, compiled, given⟩ := bind_ok given
  obtain ⟨checks, _, given⟩ := bind_ok given
  cases given
  refine ⟨⟨held, ?_, rfl, fun position => ?_⟩, rfl⟩
  · simp [Scope.types, Scope.ofColumns, TypedPlan.scan, TableDef.types, Column.visible]
  · have related := Run.mapM_forall₂ compiled
    unfold Target.default
    cases found : defaults[position]?.join with
    | none => exact ⟨SqlType.admits_null, rfl⟩
    | some e =>
        have there : defaults[position]? = some (some e) := Option.join_eq_some_iff.mp found
        obtain ⟨inside, one⟩ := List.getElem?_eq_some_iff.mp there
        have columnInside : position < d.columns.length := related.length_eq ▸ inside
        have made := related.get columnInside inside
        rw [List.get_eq_getElem, List.get_eq_getElem, one] at made
        have typed := compileDefault_typed names (flat _ (List.getElem_mem columnInside)) made e rfl
        simpa [TableDef.typeAt, columnInside] using typed

/-! ### Changes of the content -/

variable (now base)

theorem content_meets (target : t.Sound c) :
    t.content.Meets (Agrees c base) (TableData.Conforms · t.table) := by
  refine Meets.store.bind ?_
  rintro _ ⟨s, agrees, rfl⟩
  exact Meets.pure (agrees.content target.held)

theorem putContent_agrees (sound : c.Sound) (target : t.Sound c) {content : TableData}
    (conforms : content.Conforms t.table) : (t.putContent content).Keeps (Agrees c base) :=
  Meets.changeStore fun _ agrees => agrees.putTable sound target.held conforms

theorem changeContent_agrees {α : Type} (sound : c.Sound) (target : t.Sound c)
    {m : ContentChange α}
    (kept : ∀ content, content.Conforms t.table → (m.run content).2.Conforms t.table) :
    (t.changeContent m).Keeps (Agrees c base) :=
  (content_meets base target).bind fun content conforms =>
    (putContent_agrees base sound target (kept content conforms)).bind fun _ => Keeps.lift _

theorem insert_agrees (sound : c.Sound) (target : t.Sound c) (fits : Row.Fits t.table.types row) :
    (t.insert ⟨c, now⟩ row).Keeps (Agrees c base) := by
  refine (t.check_keeps (Agrees.stable sound base now) row).bind fun _ => ?_
  refine (changeContent_agrees base sound target fun content conforms => ?_).bind fun _ => Keeps.pure _
  rw [TableData.run_insert]
  cases checked : content.check t.table row none with
  | error e => exact conforms
  | ok _ => exact conforms.inserted (sound.wellFormed target.held) fits checked

theorem update_agrees (sound : c.Sound) (target : t.Sound c) (fits : Row.Fits t.table.types row)
    (id : RowId) : (t.update ⟨c, now⟩ id row).Keeps (Agrees c base) := by
  refine (t.check_keeps (Agrees.stable sound base now) row).bind fun _ => ?_
  refine (changeContent_agrees base sound target fun content conforms => ?_).bind fun _ => Keeps.pure _
  rw [TableData.run_update]
  cases found : content.get? id with
  | none => exact conforms
  | some previous =>
      cases checked : content.check t.table row (some id) with
      | error e => exact conforms
      | ok _ => exact conforms.updated (sound.wellFormed target.held) fits found checked

theorem delete_agrees (sound : c.Sound) (target : t.Sound c) (id : RowId) :
    (t.delete id).Keeps (Agrees c base) := by
  refine (content_meets base target).bind fun content conforms => ?_
  rw [TableData.delete_eq]
  cases found : content.get? id with
  | none => exact Keeps.pure _
  | some previous =>
      exact (putContent_agrees base sound target
        (conforms.deleted (sound.wellFormed target.held) found)).bind fun _ => Keeps.pure _

end Target

end SqlEngine
