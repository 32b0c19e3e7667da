import Mathlib.Data.List.InsertIdx
import SqlEngine.Proofs.Storage.TableRun
import SqlEngine.Proofs.Typing.Judgement

/-!
The content that goes with the definition of a table.

Rows of the types of their columns have keys that are totally ordered, unless an indexed column
holds documents. So what changes of the content need of the order of values follows from types, and
holds for each index whose columns hold no documents, whatever the other indexes do.
-/

namespace SqlEngine

/-! ### Values of typed expressions

Typed expressions give values of their types, and typed plans rows of theirs, wherever they are
evaluated over rows and tables of the types that they were typed for. -/

open Eval (Keeps Meets)

/-- The rows of a table hold values of the types of its columns. -/
def TableData.Fits (t : TableData) (d : TableDef) : Prop :=
  ∀ row ∈ t.rows, Row.Fits d.types row.2

/-- In every state the rows of the known tables fit their columns. -/
def Eval.Typed (known : TableDef → Prop) (inv : EvalState → Prop) : Prop :=
  ∀ s, inv s → ∀ d, known d → (s.store.table d.id).Fits d

/-- The row has columns of the types, if they are known. -/
def Seen.Holds (seen : Seen) (row : Row) : Prop := ∀ types, seen = some types → Row.Fits types row

structure Surroundings.Hold (around : Surroundings) (outer : List Row) (row : Row) : Prop where
  current : around.row.Holds row
  inner : around.inner.Holds row
  outer : List.Forall₂ Seen.Holds around.outer outer

theorem Surroundings.Hold.upon {seen : List Seen} {outer : List Row} {types : List SqlType}
    {row : Row} (holds : List.Forall₂ Seen.Holds seen outer) (fits : Row.Fits types row) :
    (Surroundings.upon seen types).Hold outer row :=
  ⟨fun _ given => Option.some.inj given ▸ fits, fun _ given => Option.some.inj given ▸ fits, holds⟩

theorem Surroundings.Hold.apart {seen : List Seen} {outer : List Row} (row : Row)
    (holds : List.Forall₂ Seen.Holds seen outer) : (Surroundings.apart seen).Hold outer row :=
  ⟨fun _ => nofun, fun _ => nofun, holds⟩

namespace Row

variable {types : List SqlType} {row : Row} {v : Value} {index : Nat} {type : SqlType}

theorem Fits.at (fits : Row.Fits types row) (found : row[index]? = some v)
    (at_ : SqlType.At types index type) : type.Admits v := by
  obtain ⟨inside, rfl⟩ := List.getElem?_eq_some_iff.mp found
  have typesInside : index < types.length := fits.length_eq ▸ inside
  rw [← at_ _ (List.getElem?_eq_getElem typesInside)]
  exact fits.get typesInside inside

theorem fits_nulls (types : List SqlType) : Row.Fits types (Cursor.nulls types.length) := by
  induction types with
  | nil => exact List.Forall₂.nil
  | cons type rest ih => exact List.Forall₂.cons SqlType.admits_null ih

end Row

theorem TableData.Fits.partners {d : TableDef} {s : Store} (fits : (s.table d.id).Fits d)
    (index : Nat) (key : Value) :
    ∀ row ∈ d.partners index key s, Row.Fits d.types row := by
  intro row member
  unfold TableDef.partners at member
  split at member
  · simp at member
  · obtain ⟨id, _, found⟩ := List.mem_filterMap.mp member
    obtain ⟨before, after, split, _⟩ := List.lookup_eq_some_iff.mp found
    refine fits (id, row) ?_
    rw [split]
    simp

variable {known : TableDef → Prop} {env : Env} {inv : EvalState → Prop}

mutual

theorem Expr.Typed.eval (stable : Eval.Stable env inv) (tables : Eval.Typed known inv) :
    ∀ {e : Expr} {around : Surroundings} {outer : List Row} {row : Row},
      e.Typed known around → around.Hold outer row →
        (e.eval env outer row).Meets inv e.type.Admits
  | .constant _ _, _, _, _, typed, _ => Meets.pure typed
  | .column index type, _, _, row, typed, holds => by
      unfold Expr.eval
      split
      · rename_i v found
        obtain ⟨types, read, at_⟩ := typed
        exact Meets.pure ((holds.current types read).at found at_)
      · exact Meets.throw _
  | .outer levels index type, around, outer, row, typed, holds => by
      unfold Expr.eval
      split
      · rename_i v found
        refine Meets.pure ?_
        split at found
        · cases found
        · obtain ⟨enclosing, reached, found⟩ := Option.bind_eq_some_iff.mp found
          obtain ⟨inside, rfl⟩ := List.getElem?_eq_some_iff.mp reached
          have seenInside : levels - 1 < around.outer.length := holds.outer.length_eq ▸ inside
          obtain ⟨types, seen, at_⟩ := typed _ (List.getElem?_eq_getElem seenInside)
          exact (holds.outer.get seenInside inside types seen).at found at_
      · exact Meets.throw _
  | .aggregate _ _, _, _, _, _, _ => Meets.throw _
  | .apply op args type, _, _, _, ⟨typed, accepted⟩, holds =>
      accepted.perform stable (Expr.AllTyped.actions stable tables typed holds)
  | .scalar query type, _, _, _, ⟨types, typed⟩, holds =>
      (typed.cursor stable tables (.cons holds.inner holds.outer)).single SqlType.admits_null
        fun _ fits => fits.head
  | .hasRows query _, _, _, _, ⟨types, typed⟩, holds =>
      (typed.cursor stable tables (.cons holds.inner holds.outer)).hasRow.bind
        fun _ _ => Meets.pure (SqlType.admits_bool _)
  | .among arg query negated type, _, _, _, ⟨left, types, typed⟩, holds => by
      refine (left.eval stable tables holds).bind fun v _ => ?_
      split
      · exact Meets.pure SqlType.admits_null
      · exact ((typed.cursor stable tables (.cons holds.inner holds.outer)).among type v).bind
          fun _ _ => Meets.pure (.of_isTruth (Op.truth_isTruth _ _))

theorem Expr.AllTyped.actions (stable : Eval.Stable env inv) (tables : Eval.Typed known inv) :
    ∀ {es : List Expr} {around : Surroundings} {outer : List Row} {row : Row},
      Expr.AllTyped known around es → around.Hold outer row →
        Eval.Give inv (es.map Expr.type) (Expr.actions env outer row es)
  | [], _, _, _, _, _ => List.Forall₂.nil
  | _ :: _, _, _, _, ⟨first, rest⟩, holds =>
      List.Forall₂.cons (first.eval stable tables holds)
        (Expr.AllTyped.actions stable tables rest holds)

theorem Plan.Typed.cursor (stable : Eval.Stable env inv) (tables : Eval.Typed known inv) :
    ∀ {p : Plan} {seen : List Seen} {outer : List Row} {types : List SqlType},
      p.Typed known seen types → List.Forall₂ Seen.Holds seen outer →
        (p.cursor env outer).Meets inv (Row.Fits types)
  | .values _, _, _, _, typed, holds => Plan.RowsTyped.cursor stable tables typed holds
  | .fixed _, _, _, _, typed, _ => Cursor.Meets.ofList typed
  | .scan table, _, _, _, ⟨held, same⟩, _ => by
      refine Cursor.Meets.deferred (Meets.store.bind ?_)
      rintro _ ⟨s, hs, rfl⟩
      refine Meets.pure fun row member => ?_
      obtain ⟨entry, among, rfl⟩ := List.mem_map.mp member
      rw [same]
      exact tables s hs table held entry among
  | .filter _ _, _, _, _, ⟨source, condition⟩, holds =>
      (source.cursor stable tables holds).filter fun _ fits =>
        (condition.eval stable tables (.upon holds fits)).bind fun _ _ => Keeps.pure _
  | .project _ _, _, _, _, ⟨row, source, items, same⟩, holds =>
      same ▸ (source.cursor stable tables holds).map fun _ fits =>
        (Expr.AllTyped.actions stable tables items (.upon holds fits)).mapM
  | .join _ _ kind _ _ _, _, _, _, typed, holds => by
      obtain ⟨lefts, rights, left, right, rfl, rfl, same, condition⟩ := typed
      refine (left.cursor stable tables holds).join (right.cursor stable tables holds) kind _ _
        (fun _ => Row.fits_nulls lefts) (Row.fits_nulls rights) ?_ fun _ fits =>
          (condition.eval stable tables (.upon holds fits)).bind fun _ _ => Keeps.pure _
      intro r s fitsLeft fitsRight
      rw [same]
      exact List.rel_append fitsLeft fitsRight
  | .lookupJoin _ table index _ keepLeft _, _, _, _, typed, holds => by
      obtain ⟨lefts, left, held, key, same, condition⟩ := typed
      refine (left.cursor stable tables holds).lookupJoin (Row.Fits table.types)
        keepLeft _ (by simpa [TableDef.types] using Row.fits_nulls table.types) ?_
        (fun _ fits => (condition.eval stable tables (.upon holds fits)).bind fun _ _ => Keeps.pure _)
        ?_
      · intro r s fitsLeft fitsRight
        rw [same]
        exact List.rel_append fitsLeft fitsRight
      · intro r fits
        refine (key.eval stable tables (.upon holds fits)).bind fun v _ => Meets.store.bind ?_
        rintro _ ⟨s, hs, rfl⟩
        exact Meets.pure ((tables s hs table held).partners index v)
  | .group _ keys calls args, _, _, _, typed, holds => by
      obtain ⟨row, source, keyed, fed, takes, same⟩ := typed
      refine (source.cursor stable tables holds).group _ (Row.Fits (keys.map Expr.type))
        (Groups.Fed calls (args.map Expr.type)) (Groups.fed_fresh takes)
        (fun _ fits => (Expr.AllTyped.actions stable tables keyed (.upon holds fits)).mapM)
        (fun _ fits _ held => Groups.feed_meets takes held
          (Expr.AllTyped.actions stable tables fed (.upon holds fits))) ?_ ?_
      · intro none
        rw [none]
        exact List.Forall₂.nil
      · intro group fitsKey fitsCalls
        rw [same]
        exact List.rel_append fitsKey (Groups.results_fit takes fitsCalls)
  | .order _ _ _, _, _, _, ⟨source, keys⟩, holds =>
      (source.cursor stable tables holds).order _ fun _ fits =>
        (Expr.AllTyped.actions stable tables keys (.upon holds fits)).mapM.keeps
  | .distinct source types, _, _, _, typed, holds =>
      (Plan.Typed.cursor (p := source) stable tables typed holds).distinct types
        fun _ _ => Keeps.pure _
  | .distinctOn _ _, _, _, _, ⟨source, keys⟩, holds =>
      (source.cursor stable tables holds).distinct _ fun _ fits =>
        (Expr.AllTyped.actions stable tables keys (.upon holds fits)).mapM.keeps
  | .limit source count offset, _, _, _, typed, holds =>
      (Plan.Typed.cursor (p := source) stable tables typed holds).limit count offset
  | .union _ _ _ types, _, _, _, ⟨left, right⟩, holds => by
      have both := (left.cursor stable tables holds).append (right.cursor stable tables holds)
      unfold Plan.cursor
      split
      · exact both
      · exact both.distinct types fun _ _ => Keeps.pure _

theorem Plan.RowsTyped.cursor (stable : Eval.Stable env inv) (tables : Eval.Typed known inv) :
    ∀ {rows : List (List Expr)} {seen : List Seen} {outer : List Row} {types : List SqlType},
      Plan.RowsTyped known seen rows types → List.Forall₂ Seen.Holds seen outer →
        (Plan.valuesCursor env outer rows).Meets inv (Row.Fits types)
  | [], _, _, _, _, _ => Cursor.Meets.empty
  | _ :: _, _, _, _, ⟨first, same, rest⟩, holds =>
      Cursor.Meets.after (Expr.AllTyped.actions stable tables first (.upon holds .nil)).mapM
        fun _ fits => Cursor.Meets.cons (same ▸ fits) (rest.cursor stable tables holds)

end

/-! ### Rows of other columns -/

theorem Row.Fits.eraseIdx {types : List SqlType} {row : Row} (fits : Row.Fits types row) :
    ∀ position : Nat, Row.Fits (types.eraseIdx position) (row.eraseIdx position) := by
  induction fits with
  | nil => exact fun _ => List.Forall₂.nil
  | cons first rest ih =>
      intro position
      cases position with
      | zero => exact rest
      | succ before => exact List.Forall₂.cons first (ih before)

namespace TableDef

def keyTypes (d : TableDef) (i : IndexDef) : List SqlType := i.columns.map d.typeAt

/-- Is the order of the keys of the index total? -/
def Sortable (d : TableDef) (i : IndexDef) : Prop := ∀ type ∈ d.keyTypes i, type.hasTotalOrder

variable {d e : TableDef} {i : IndexDef} {row : Row}

theorem typeAt_eq (d : TableDef) (position : Nat) : d.typeAt position = d.types.getD position .null := by
  rw [typeAt, types, List.getD_eq_getElem?_getD, List.getElem?_map]
  cases d.columns[position]? <;> rfl

theorem typeAt_congr (same : e.types = d.types) : e.typeAt = d.typeAt := by
  funext position
  rw [typeAt_eq, typeAt_eq, same]

theorem at_typeAt (d : TableDef) (position : Nat) : SqlType.At d.types position (d.typeAt position) := by
  intro type found
  rw [typeAt_eq, List.getD_eq_getElem?_getD, found, Option.getD_some]

theorem admits_getD (fits : Row.Fits d.types row) (position : Nat) :
    (d.typeAt position).Admits (row.getD position .null) := by
  rw [List.getD_eq_getElem?_getD]
  cases found : row[position]? with
  | none => exact SqlType.admits_null
  | some v => exact fits.at found (d.at_typeAt position)

theorem fits_keyOf (fits : Row.Fits d.types row) : Row.Fits (d.keyTypes i) (d.keyOf i row) := by
  rw [keyOf_eq_map, keyTypes]
  induction i.columns with
  | nil => exact List.Forall₂.nil
  | cons c rest ih => exact List.Forall₂.cons (admits_getD fits c).canonical ih

theorem totalOn_keys (sortable : d.Sortable i) :
    TotalOn Value.orderRows (Row.Fits (d.keyTypes i)) := by
  let held (position : Nat) (v : Value) : Prop :=
    ∃ type ∈ (d.keyTypes i)[position]?, type.Admits v
  have total : ∀ position, TotalOn Value.order (held position) := by
    intro position
    cases there : (d.keyTypes i)[position]? with
    | none => exact (Value.totalOn_fits true).mono fun v ⟨_, found, _⟩ => by simp [there] at found
    | some type =>
        refine (SqlType.totalOn_admits (sortable type (List.mem_of_getElem? there))).mono ?_
        rintro v ⟨found, same, admitted⟩
        rw [there] at same
        exact Option.some.inj same ▸ admitted
  refine (Value.totalOn_orderRows total).mono fun key fits position v found => ?_
  obtain ⟨inside, rfl⟩ := List.getElem?_eq_some_iff.mp found
  have typesInside : position < (d.keyTypes i).length := fits.length_eq ▸ inside
  exact ⟨_, List.getElem?_eq_getElem typesInside, fits.get typesInside inside⟩

end TableDef

namespace TableData

/-- The content goes with the definition. Indexes whose keys are not totally ordered may be wrong. -/
structure Conforms (t : TableData) (d : TableDef) : Prop where
  shape : t.Shape d
  fits : t.Fits d
  complete : ∀ e ∈ t.rows, d.Complete e.2
  stored : ∀ i ∈ d.indexes, ∀ e ∈ t.indexData i.id, Row.Fits (d.keyTypes i) e.1
  indexed : ∀ i ∈ d.indexes, d.Sortable i → t.Indexed d i

variable {t : TableData} {d e : TableDef} {i : IndexDef} {row : Row}

theorem Conforms.comparable (conforms : t.Conforms d) (member : i ∈ d.indexes)
    (sortable : d.Sortable i) {coming : List Row} (fits : ∀ row ∈ coming, Row.Fits d.types row) :
    t.Comparable d i coming := by
  refine (TableDef.totalOn_keys sortable).mono fun key there => ?_
  rcases List.mem_append.mp there with held | new
  · rcases List.mem_append.mp held with stored | old
    · obtain ⟨entry, inside, rfl⟩ := List.mem_map.mp stored
      exact conforms.stored i member entry inside
    · obtain ⟨entry, inside, rfl⟩ := List.mem_map.mp old
      exact TableDef.fits_keyOf (conforms.fits entry inside)
  · obtain ⟨row, inside, rfl⟩ := List.mem_map.mp new
    exact TableDef.fits_keyOf (fits row inside)

theorem Conforms.rowKeys (conforms : t.Conforms d) (sortable : d.Sortable i) :
    TotalOn Value.orderRows (· ∈ t.rowKeys d i) := by
  refine (TableDef.totalOn_keys sortable).mono fun key there => ?_
  obtain ⟨entry, inside, rfl⟩ := List.mem_map.mp there
  exact TableDef.fits_keyOf (conforms.fits entry inside)

theorem conforms_empty (d : TableDef) : empty.Conforms d where
  shape := ⟨by simp [empty], List.Pairwise.nil, by simp [empty], List.Pairwise.nil, by simp [empty]⟩
  fits := by simp [Fits, empty]
  complete := by simp [empty]
  stored := by simp [indexData, empty]
  indexed := by
    intro i _ _
    constructor
    · exact IndexData.Holds.nil.congr fun key id => by simp [TableDef.pairs, empty]
    · intro _ a member
      exact absurd member List.not_mem_nil

/-! ### Changes of rows -/

/-- Adding a row to an index brings no key but that of the row. -/
theorem stored_add {types : List SqlType} {data : IndexData} {key : Row} {id : RowId}
    (stored : ∀ e ∈ data, Row.Fits types e.1) (fits : Row.Fits types key) :
    ∀ e ∈ data.add key id, Row.Fits types e.1 := by
  intro e member
  rcases IndexData.key_of_mem_add member with same | ⟨old, held, same⟩
  · exact same ▸ fits
  · exact same ▸ stored old held

theorem stored_remove {types : List SqlType} {data : IndexData} {key : Row} {id : RowId}
    (stored : ∀ e ∈ data, Row.Fits types e.1) (fits : Row.Fits types key) :
    ∀ e ∈ data.remove key id, Row.Fits types e.1 := by
  intro e member
  rcases IndexData.key_of_mem_remove member with same | ⟨old, held, same⟩
  · exact same ▸ fits
  · exact same ▸ stored old held

theorem Conforms.inserted (conforms : t.Conforms d) (wellFormed : d.WellFormed)
    (fits : Row.Fits d.types row) (checked : t.check d row none = .ok ()) :
    (t.inserted d row).Conforms d := by
  obtain ⟨width, complete, free⟩ := (check_eq_ok_iff _ _ _ _).mp checked
  constructor
  · exact conforms.shape.inserted wellFormed width
  · intro a member
    rcases List.mem_append.mp member with old | new
    · exact conforms.fits a old
    · exact List.mem_singleton.mp new ▸ fits
  · intro a member
    rcases List.mem_append.mp member with old | new
    · exact conforms.complete a old
    · exact List.mem_singleton.mp new ▸ complete
  · intro i member
    rw [indexData_inserted wellFormed conforms.shape member]
    exact stored_add (conforms.stored i member) (TableDef.fits_keyOf fits)
  · intro i member sortable
    exact (conforms.indexed i member sortable).inserted wellFormed conforms.shape
      (conforms.comparable member sortable (by simpa using fits)) free member

theorem Conforms.updated {id : RowId} {previous : Row} (conforms : t.Conforms d)
    (wellFormed : d.WellFormed) (fits : Row.Fits d.types row) (found : t.get? id = some previous)
    (checked : t.check d row (some id) = .ok ()) : (t.updated d id previous row).Conforms d := by
  obtain ⟨width, complete, free⟩ := (check_eq_ok_iff _ _ _ _).mp checked
  have there : (id, previous) ∈ t.rows := (get?_eq_some_iff conforms.shape id previous).mp found
  have before := conforms.fits _ there
  constructor
  · exact conforms.shape.updated wellFormed found width
  · intro a member
    rcases (mem_rows_updated conforms.shape found a).mp member with ⟨old, _⟩ | rfl
    · exact conforms.fits a old
    · exact fits
  · intro a member
    rcases (mem_rows_updated conforms.shape found a).mp member with ⟨old, _⟩ | rfl
    · exact conforms.complete a old
    · exact complete
  · intro i member
    rw [indexData_updated wellFormed conforms.shape member]
    exact stored_add (stored_remove (conforms.stored i member) (TableDef.fits_keyOf before))
      (TableDef.fits_keyOf fits)
  · intro i member sortable
    exact (conforms.indexed i member sortable).updated wellFormed conforms.shape
      (conforms.comparable member sortable (by simpa using fits)) found free member

theorem Conforms.deleted {id : RowId} (conforms : t.Conforms d) (wellFormed : d.WellFormed)
    (found : t.get? id = some row) : (t.deleted d id row).Conforms d := by
  have there : (id, row) ∈ t.rows := (get?_eq_some_iff conforms.shape id row).mp found
  constructor
  · exact conforms.shape.deleted wellFormed id
  · exact fun a member => conforms.fits a ((mem_rows_deleted t d id a).mp member).1
  · exact fun a member => conforms.complete a ((mem_rows_deleted t d id a).mp member).1
  · intro i member
    have removed : (t.deleted d id row).indexData i.id = (t.indexData i.id).remove (d.keyOf i row) id :=
      indexData_removeKeys wellFormed conforms.shape member id row
    rw [removed]
    exact stored_remove (conforms.stored i member) (TableDef.fits_keyOf (conforms.fits _ there))
  · intro i member sortable
    exact (conforms.indexed i member sortable).deleted wellFormed conforms.shape
      (conforms.comparable member sortable (by simp)) found member

theorem Conforms.truncate (conforms : t.Conforms d) : t.truncate.Conforms d where
  shape := conforms.shape.truncate
  fits := by simp [Fits, TableData.truncate]
  complete := by simp [TableData.truncate]
  stored := by simp [indexData_truncate]
  indexed := fun i _ _ => Indexed.truncate t d i

/-! ### Changes of the definition -/

/-- A definition with the same types and indexes, and with no demand that a row does not meet. -/
theorem Conforms.redefined (conforms : t.Conforms d) (types : e.types = d.types)
    (indexes : e.indexes = d.indexes) (complete : ∀ a ∈ t.rows, e.Complete a.2) : t.Conforms e := by
  have typeAt := TableDef.typeAt_congr types
  have width : e.columns.length = d.columns.length := by
    simpa [TableDef.types] using congrArg List.length types
  have keyTypes : ∀ i, e.keyTypes i = d.keyTypes i := fun i => by
    rw [TableDef.keyTypes, TableDef.keyTypes, typeAt]
  constructor
  · exact ⟨fun a member => (conforms.shape.width a member).trans width.symm, conforms.shape.ascending,
      conforms.shape.issued, conforms.shape.increasing, indexes ▸ conforms.shape.defined⟩
  · exact fun a member => types ▸ conforms.fits a member
  · exact complete
  · intro i member
    rw [keyTypes]
    exact conforms.stored i (indexes ▸ member)
  · intro i member sortable
    have before : d.Sortable i := fun type held => sortable type (keyTypes i ▸ held)
    refine (conforms.indexed i (indexes ▸ member) before).transport (fun row => row) (by simp) rfl ?_ rfl
    intro a _
    rw [TableDef.keyOf_eq_map, TableDef.keyOf_eq_map, typeAt]

theorem buildIndex_congr (columns : e.columns = d.columns) (t : TableData) (i : IndexDef) :
    t.buildIndex e i = t.buildIndex d i := by
  have keys : ∀ row, e.keyOf i row = d.keyOf i row := by
    intro row
    rw [TableDef.keyOf_eq_map, TableDef.keyOf_eq_map,
      TableDef.typeAt_congr (congrArg (·.map (·.type)) columns)]
  have builds : buildKey e i = buildKey d i := by
    funext data a
    simp only [buildKey, keys]
  rw [buildIndex, buildIndex, builds]

theorem stored_foldlM_buildKey {types : List SqlType} : ∀ {rows : List (RowId × Row)}
    {data built : IndexData}, (∀ e ∈ data, Row.Fits types e.1) →
      (∀ a ∈ rows, Row.Fits types (d.keyOf i a.2)) → rows.foldlM (buildKey d i) data = .ok built →
        ∀ e ∈ built, Row.Fits types e.1 := by
  intro rows
  induction rows with
  | nil =>
      intro data built stored _ made
      cases made
      exact stored
  | cons a rest ih =>
      intro data built stored coming made
      obtain ⟨first, others⟩ := List.forall_mem_cons.mp coming
      obtain ⟨next, added, made⟩ := Run.bind_ok made
      unfold buildKey at added
      dsimp only at added
      split at added
      · cases added
      · cases added
        exact ih (stored_add stored first) others made

theorem Conforms.putIndex {data : IndexData} (conforms : t.Conforms d)
    (fresh : i.id ∉ d.indexes.map (·.id)) (built : t.buildIndex (d.addIndexes [i]) i = .ok data) :
    (t.putIndex i.id data).Conforms (d.addIndexes [i]) := by
  have shape := conforms.shape
  have other : ∀ j ∈ d.indexes, j.id ≠ i.id := fun j held same =>
    fresh (same ▸ List.mem_map_of_mem held)
  constructor
  · exact shape.putIndex data
  · exact conforms.fits
  · exact conforms.complete
  · intro j member
    rw [indexData_putIndex shape]
    rcases List.mem_append.mp member with old | new
    · rw [if_neg (other j old)]
      exact conforms.stored j old
    · cases List.mem_singleton.mp new
      rw [if_pos rfl]
      exact stored_foldlM_buildKey (by simp)
        (fun a held => TableDef.fits_keyOf (conforms.fits a held)) built
  · intro j member sortable
    rcases List.mem_append.mp member with old | new
    · exact (conforms.indexed j old sortable).putIndex shape (other j old) data
    · cases List.mem_singleton.mp new
      exact indexed_putIndex shape (conforms.rowKeys (d := d) sortable) built

theorem Conforms.dropIndex (conforms : t.Conforms d) (id : Nat) :
    (t.dropIndex id).Conforms (d.removeIndex id) := by
  constructor
  · exact conforms.shape.dropIndex id
  · exact conforms.fits
  · exact conforms.complete
  · intro i member
    obtain ⟨old, other⟩ := List.mem_filter.mp member
    have different : i.id ≠ id := by simpa using other
    simp only [indexData, TableData.dropIndex, Sorted.erase,
      Sorted.lookup_alter conforms.shape.increasing, if_neg different]
    exact conforms.stored i old
  · intro i member sortable
    obtain ⟨old, other⟩ := List.mem_filter.mp member
    exact (conforms.indexed i old sortable).dropIndex conforms.shape (by simpa using other)

theorem Conforms.addColumn (conforms : t.Conforms d) (wellFormed : d.WellFormed)
    (column : ColumnDef) {v : Value} (admitted : column.type.Admits v)
    (filled : column.notNull → t.rows ≠ [] → v.isNull = false) :
    (t.addColumn v).Conforms (d.addColumn column) := by
  have types : (d.addColumn column).types = d.types ++ [column.type] := by
    simp [TableDef.types, TableDef.addColumn]
  have keyTypes : ∀ i ∈ d.indexes, (d.addColumn column).keyTypes i = d.keyTypes i := by
    intro i member
    refine List.map_congr_left fun c indexed => ?_
    have bound := wellFormed.columns i member c indexed
    simp only [TableDef.typeAt, TableDef.addColumn, List.getElem?_append_left bound]
  constructor
  · exact conforms.shape.addColumn column v
  · intro a member
    obtain ⟨old, held, rfl⟩ := List.mem_map.mp member
    rw [types]
    exact List.rel_append (conforms.fits old held) (List.Forall₂.cons admitted .nil)
  · intro a member
    obtain ⟨old, held, rfl⟩ := List.mem_map.mp member
    exact (conforms.complete old held).append (conforms.shape.width old held) fun needed =>
      filled needed (List.ne_nil_of_mem held)
  · intro i member
    rw [keyTypes i member]
    exact conforms.stored i member
  · intro i member sortable
    have before : d.Sortable i := fun type held => sortable type ((keyTypes i member).symm ▸ held)
    exact (conforms.indexed i member before).addColumn wellFormed conforms.shape member column v

theorem stored_foldl_add {types : List SqlType} : ∀ {rows : List (RowId × Row)} {data : IndexData},
    (∀ e ∈ data, Row.Fits types e.1) → (∀ a ∈ rows, Row.Fits types (d.keyOf i a.2)) →
      ∀ e ∈ rows.foldl (fun data a => data.add (d.keyOf i a.2) a.1) data, Row.Fits types e.1 := by
  intro rows
  induction rows with
  | nil => exact fun stored _ => stored
  | cons a rest ih =>
      intro data stored coming
      obtain ⟨first, others⟩ := List.forall_mem_cons.mp coming
      exact ih (stored_add stored first) others

theorem keyTypes_removeColumn {position : Nat} (kept : position ∉ i.columns) :
    (d.removeColumn position).keyTypes (i.withoutPosition position) = d.keyTypes i := by
  rw [TableDef.keyTypes, TableDef.keyTypes, IndexDef.withoutPosition, List.map_map]
  refine List.map_congr_left fun c indexed => ?_
  have other : c ≠ position := fun same => kept (same ▸ indexed)
  have moved := TableDef.getElem?_eraseIdx_shift d.columns other
  rw [TableDef.shift] at moved
  simp only [Function.comp_apply, TableDef.typeAt, TableDef.removeColumn, moved]

theorem Conforms.dropColumn {position : Nat} (conforms : t.Conforms d) (wellFormed : d.WellFormed)
    (bound : position < d.columns.length) :
    (t.dropColumn (d.removeColumn position) position).Conforms (d.removeColumn position) := by
  have cut := conforms.shape.cut bound
  have reduced := wellFormed.removeColumn bound
  have types : (d.removeColumn position).types = d.types.eraseIdx position := by
    rw [TableDef.types, TableDef.types, TableDef.removeColumn, List.eraseIdx_map]
  have fits : ∀ a ∈ (t.cut position).rows, Row.Fits (d.removeColumn position).types a.2 := by
    intro a member
    obtain ⟨old, held, rfl⟩ := List.mem_map.mp member
    rw [types]
    exact Row.Fits.eraseIdx (conforms.fits old held) position
  rw [dropColumn_eq]
  constructor
  · exact cut.reindex reduced
  · rw [Fits, rows_reindex]
    exact fits
  · rw [rows_reindex]
    intro a member
    obtain ⟨old, held, rfl⟩ := List.mem_map.mp member
    exact (conforms.complete old held).eraseIdx position
  · intro j member
    have data := (foldl_addKeys reduced (t.cut position).rows _
      (cut.alterIndexes reduced fun _ _ => some [])).2 j member
    rw [indexData_alterIndexes reduced cut member] at data
    rw [reindex_eq, data]
    exact stored_foldl_add (by simp) fun a held => TableDef.fits_keyOf (fits a held)
  · intro j member sortable
    obtain ⟨i, old, kept, rfl⟩ := TableDef.mem_indexes_removeColumn.mp member
    have before : d.Sortable i := fun type held => sortable type (keyTypes_removeColumn kept ▸ held)
    exact (conforms.indexed i old before).dropColumn wellFormed conforms.shape bound old kept
      (conforms.rowKeys before)

end TableData

end SqlEngine
