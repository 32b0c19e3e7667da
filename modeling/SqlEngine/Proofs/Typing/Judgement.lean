import Mathlib.Data.List.Forall2
import SqlEngine.Proofs.Typing.Aggregates

/-!
Typing of compiled expressions and plans.

A row that an expression reads is known by the types of its columns, or not at all. Reading behind
the end of a row fails when it is evaluated, so typing says nothing about it: an expression that is
typed over wide rows is typed over their beginnings too. Rows that are not known must not be read.
-/

namespace SqlEngine

/-- The column of a row is of the type, if the row has it. -/
def SqlType.At (types : List SqlType) (index : Nat) (type : SqlType) : Prop :=
  ∀ t, types[index]? = some t → t = type

def TableDef.types (d : TableDef) : List SqlType := d.columns.map (·.type)

/-- The types of the columns of a row, if they are known. -/
abbrev Seen := Option (List SqlType)

/-- What an expression can read. -/
structure Surroundings where
  /-- The current row. -/
  row : Seen
  /-- The current row as subqueries see it. -/
  inner : Seen
  /-- The rows of the enclosing queries, the nearest one first. -/
  outer : List Seen
  /-- The types of the aggregate calls. -/
  calls : Nat → SqlType → Prop

namespace Surroundings

/-- The surroundings of an expression over the rows of a plan. -/
def upon (outer : List Seen) (row : List SqlType) : Surroundings :=
  ⟨some row, some row, outer, fun _ _ => True⟩

/-- The surroundings of an expression that stands over no rows. -/
def apart (outer : List Seen) : Surroundings := ⟨none, none, outer, fun _ _ => True⟩

end Surroundings

mutual

/-- Does the expression give values of its type? `known` holds of the tables that it may read. -/
def Expr.Typed (known : TableDef → Prop) (around : Surroundings) : Expr → Prop
  | .constant v type => type.Admits v
  | .column index type => ∃ types, around.row = some types ∧ SqlType.At types index type
  | .outer levels index type => ∀ row, around.outer[levels - 1]? = some row →
    ∃ types, row = some types ∧ SqlType.At types index type
  | .aggregate number type => around.calls number type
  | .apply op args type =>
    Expr.AllTyped known around args ∧ op.Accepts (args.map Expr.type) type
  | .call _ _ => False
  | .scalar query type =>
    ∃ types, query.Typed known (around.inner :: around.outer) (type :: types)
  | .hasRows query _ => ∃ types, query.Typed known (around.inner :: around.outer) types
  | .among arg query _ _ => arg.Typed known around ∧
    ∃ types, query.Typed known (around.inner :: around.outer) types

def Expr.AllTyped (known : TableDef → Prop) (around : Surroundings) : List Expr → Prop
  | [] => True
  | e :: rest => e.Typed known around ∧ Expr.AllTyped known around rest

/-- Does the plan give rows with columns of the types? -/
def Plan.Typed (known : TableDef → Prop) (outer : List Seen) :
    Plan → List SqlType → Prop
  | .values rows, types => Plan.RowsTyped known outer rows types
  | .fixed rows, types => ∀ row ∈ rows, Row.Fits types row
  | .scan table, types => known table ∧ types = table.types
  | .filter source condition, types =>
    source.Typed known outer types ∧ condition.Typed known (.upon outer types)
  | .project source items, types => ∃ row, source.Typed known outer row ∧
    Expr.AllTyped known (.upon outer row) items ∧ types = items.map Expr.type
  | .join left right _ leftWidth rightWidth condition, types => ∃ lefts rights,
    left.Typed known outer lefts ∧ right.Typed known outer rights ∧
      leftWidth = lefts.length ∧ rightWidth = rights.length ∧ types = lefts ++ rights ∧
      condition.Typed known (.upon outer types)
  | .lookupJoin left table _ key _ condition, types => ∃ lefts,
    left.Typed known outer lefts ∧ known table ∧ key.Typed known (.upon outer lefts) ∧
      types = lefts ++ table.types ∧ condition.Typed known (.upon outer types)
  | .group source keys calls args, types => ∃ row, source.Typed known outer row ∧
    Expr.AllTyped known (.upon outer row) keys ∧ Expr.AllTyped known (.upon outer row) args ∧
      Groups.Take calls (args.map Expr.type) ∧
      types = keys.map Expr.type ++ calls.map (·.type)
  | .order source keys _, types =>
    source.Typed known outer types ∧ Expr.AllTyped known (.upon outer types) keys
  | .distinct source _, types => source.Typed known outer types
  | .distinctOn source keys, types =>
    source.Typed known outer types ∧ Expr.AllTyped known (.upon outer types) keys
  | .limit source _ _, types => source.Typed known outer types
  | .union left right _ _, types =>
    left.Typed known outer types ∧ right.Typed known outer types

/-- Lists of expressions over the empty row. -/
def Plan.RowsTyped (known : TableDef → Prop) (outer : List Seen) :
    List (List Expr) → List SqlType → Prop
  | [], _ => True
  | row :: rest, types => Expr.AllTyped known (.upon outer []) row ∧
    row.map Expr.type = types ∧ Plan.RowsTyped known outer rest types

end

namespace Expr

variable {known : TableDef → Prop} {around : Surroundings}

theorem allTyped_iff {es : List Expr} : AllTyped known around es ↔ ∀ e ∈ es, e.Typed known around := by
  induction es with
  | nil => simp [AllTyped]
  | cons e rest ih => simp [AllTyped, ih]

end Expr

theorem Plan.rowsTyped_iff {known : TableDef → Prop} {outer : List Seen} {rows : List (List Expr)}
    {types : List SqlType} : RowsTyped known outer rows types ↔
      ∀ row ∈ rows, Expr.AllTyped known (.upon outer []) row ∧ row.map Expr.type = types := by
  induction rows with
  | nil => simp [RowsTyped]
  | cons row rest ih => simp [RowsTyped, ih, and_assoc]

/-! ### What is typed over more is typed over less -/

/-- A row that is known less far than another one. -/
def Seen.Narrows (wide narrow : Seen) : Prop :=
  ∀ types, wide = some types → ∃ fewer, narrow = some fewer ∧ fewer <+: types

namespace Seen.Narrows

variable {wide narrow : Seen} {types fewer : List SqlType}

theorem refl : Seen.Narrows wide wide := fun types given => ⟨types, given, List.prefix_refl types⟩

theorem of_none : Seen.Narrows none narrow := fun _ given => by cases given

theorem some (start : fewer <+: types) : Seen.Narrows (some types) (some fewer) := by
  rintro _ ⟨⟩
  exact ⟨fewer, rfl, start⟩

end Seen.Narrows

theorem SqlType.At.prefix {types fewer : List SqlType} {index : Nat} {type : SqlType}
    (at_ : SqlType.At types index type) (start : fewer <+: types) : SqlType.At fewer index type := by
  obtain ⟨rest, rfl⟩ := start
  intro t found
  refine at_ t ?_
  obtain ⟨inside, _⟩ := List.getElem?_eq_some_iff.mp found
  rw [List.getElem?_append_left inside, found]

/-- Surroundings in which less is known. -/
structure Surroundings.Narrows (wide narrow : Surroundings) : Prop where
  row : Seen.Narrows wide.row narrow.row
  inner : Seen.Narrows wide.inner narrow.inner
  outer : List.Forall₂ Seen.Narrows wide.outer narrow.outer
  calls : ∀ number type, wide.calls number type → narrow.calls number type

theorem Seen.narrows_refl (outer : List Seen) :
    List.Forall₂ Seen.Narrows outer outer :=
  List.forall₂_same.mpr fun _ _ => Seen.Narrows.refl

theorem Surroundings.Narrows.upon {wide narrow : List Seen}
    (outer : List.Forall₂ Seen.Narrows wide narrow) (row : List SqlType) :
    (Surroundings.upon wide row).Narrows (.upon narrow row) :=
  ⟨Seen.Narrows.refl, Seen.Narrows.refl, outer, fun _ _ => id⟩

theorem Surroundings.Narrows.apart (outer : List Seen) (row : List SqlType) :
    (Surroundings.apart outer).Narrows (.upon outer row) :=
  ⟨Seen.Narrows.of_none, Seen.Narrows.of_none, Seen.narrows_refl outer, fun _ _ => id⟩

mutual

theorem Expr.Typed.narrow {known : TableDef → Prop} {wide narrow : Surroundings}
    (less : wide.Narrows narrow) : ∀ {e : Expr}, e.Typed known wide → e.Typed known narrow
  | .constant _ _, typed => typed
  | .column _ _, ⟨types, read, at_⟩ =>
      have ⟨fewer, narrower, start⟩ := less.row types read
      ⟨fewer, narrower, at_.prefix start⟩
  | .outer levels index type, typed => by
      intro row found
      obtain ⟨inside, rfl⟩ := List.getElem?_eq_some_iff.mp found
      have wideInside : levels - 1 < wide.outer.length := less.outer.length_eq ▸ inside
      obtain ⟨types, seen, at_⟩ := typed _ (List.getElem?_eq_getElem wideInside)
      obtain ⟨fewer, narrower, start⟩ := less.outer.get wideInside inside types seen
      exact ⟨fewer, narrower, at_.prefix start⟩
  | .aggregate number type, typed => less.calls number type typed
  | .apply _ _ _, ⟨args, accepted⟩ => ⟨Expr.AllTyped.narrow less args, accepted⟩
  | .scalar _ _, ⟨types, query⟩ => ⟨types, query.narrow (.cons less.inner less.outer)⟩
  | .hasRows _ _, ⟨types, query⟩ => ⟨types, query.narrow (.cons less.inner less.outer)⟩
  | .among _ _ _ _, ⟨arg, types, query⟩ =>
      ⟨arg.narrow less, types, query.narrow (.cons less.inner less.outer)⟩

theorem Expr.AllTyped.narrow {known : TableDef → Prop} {wide narrow : Surroundings}
    (less : wide.Narrows narrow) : ∀ {es : List Expr}, Expr.AllTyped known wide es →
      Expr.AllTyped known narrow es
  | [], _ => trivial
  | _ :: _, ⟨first, rest⟩ => ⟨first.narrow less, Expr.AllTyped.narrow less rest⟩

theorem Plan.Typed.narrow {known : TableDef → Prop} {wide narrow : List Seen}
    (less : List.Forall₂ Seen.Narrows wide narrow) : ∀ {p : Plan} {types : List SqlType},
      p.Typed known wide types → p.Typed known narrow types
  | .values _, _, typed => Plan.RowsTyped.narrow less typed
  | .fixed _, _, typed => typed
  | .scan _, _, typed => typed
  | .filter _ _, _, ⟨source, condition⟩ =>
      ⟨source.narrow less, condition.narrow (.upon less _)⟩
  | .project _ _, _, ⟨row, source, items, same⟩ =>
      ⟨row, source.narrow less, Expr.AllTyped.narrow (.upon less row) items, same⟩
  | .join _ _ _ _ _ _, _, ⟨lefts, rights, left, right, width, other, same, condition⟩ =>
      ⟨lefts, rights, left.narrow less, right.narrow less, width, other, same,
        condition.narrow (.upon less _)⟩
  | .lookupJoin _ _ _ _ _ _, _, ⟨lefts, left, table, key, same, condition⟩ =>
      ⟨lefts, left.narrow less, table, key.narrow (.upon less _), same,
        condition.narrow (.upon less _)⟩
  | .group _ _ _ _, _, ⟨row, source, keys, args, takes, same⟩ =>
      ⟨row, source.narrow less, Expr.AllTyped.narrow (.upon less row) keys,
        Expr.AllTyped.narrow (.upon less row) args, takes, same⟩
  | .order _ _ _, _, ⟨source, keys⟩ =>
      ⟨source.narrow less, Expr.AllTyped.narrow (.upon less _) keys⟩
  | .distinct source _, _, typed => Plan.Typed.narrow (p := source) less typed
  | .distinctOn _ _, _, ⟨source, keys⟩ =>
      ⟨source.narrow less, Expr.AllTyped.narrow (.upon less _) keys⟩
  | .limit source _ _, _, typed => Plan.Typed.narrow (p := source) less typed
  | .union _ _ _ _, _, ⟨left, right⟩ => ⟨left.narrow less, right.narrow less⟩

theorem Plan.RowsTyped.narrow {known : TableDef → Prop} {wide narrow : List Seen}
    (less : List.Forall₂ Seen.Narrows wide narrow) : ∀ {rows : List (List Expr)}
      {types : List SqlType}, Plan.RowsTyped known wide rows types →
        Plan.RowsTyped known narrow rows types
  | [], _, _ => trivial
  | _ :: _, _, ⟨row, same, rest⟩ =>
      ⟨Expr.AllTyped.narrow (.upon less []) row, same, Plan.RowsTyped.narrow less rest⟩

end

end SqlEngine
