import SqlEngine.Proofs.Evaluation.Frame
import SqlEngine.Proofs.Types.Conversions

/-!
The types of operators: operands of some types give a result of another.
-/

namespace SqlEngine

open Eval (Keeps Meets)

/-- The evaluations give values of the types. -/
abbrev Eval.Give (inv : EvalState → Prop) (types : List SqlType) (args : List (Eval Value)) : Prop :=
  List.Forall₂ (fun type m => Meets inv type.Admits m) types args

/-- The values of a row are of the types of some columns. -/
abbrev Row.Fits (types : List SqlType) (row : Row) : Prop := List.Forall₂ SqlType.Admits types row

variable {inv : EvalState → Prop} {env : Env} {types : List SqlType} {type source : SqlType}
  {args : List (Eval Value)} {v w : Value}

/-! ### Operands one by one -/

section Related

variable {α β : Type} {items : List α} {R : SqlType → α → Prop}

theorem SqlType.forall_of_same (related : List.Forall₂ R types items)
    (same : ∀ t ∈ types, t = type) : ∀ a ∈ items, R type a := by
  induction related with
  | nil => simp
  | cons first _ ih =>
      obtain ⟨rfl, others⟩ := List.forall_mem_cons.mp same
      exact List.forall_mem_cons.mpr ⟨first, ih others⟩

theorem Op.outcomes_related {R : α → β → Prop} : ∀ {as : List α} {bs : List β},
    List.Forall₂ R as bs → List.Forall₂ R (outcomes as) (outcomes bs)
  | [], [], _ => .nil
  | [_], [_], related => related
  | _ :: _ :: _, _ :: _ :: _, .cons _ (.cons result rest) =>
      .cons result (Op.outcomes_related rest)

end Related

namespace Eval

/-- What is known of the value of each operand. -/
abbrev Operands (inv : EvalState → Prop) (R : SqlType → Value → Prop) (types : List SqlType)
    (args : List (Eval Value)) : Prop :=
  List.Forall₂ (fun type m => Meets inv (R type) m) types args

variable {R : SqlType → Value → Prop}

theorem Operands.keeps (given : Operands inv R types args) : ∀ m ∈ args, m.Keeps inv := by
  induction given with
  | nil => simp
  | cons first _ ih => exact List.forall_mem_cons.mpr ⟨first.keeps, ih⟩

theorem Operands.mapM (given : Operands inv R types args) :
    Meets inv (List.Forall₂ R types) (args.mapM id) := by
  induction given with
  | nil =>
      rw [List.mapM_nil]
      exact Meets.pure List.Forall₂.nil
  | cons first _ ih =>
      rw [List.mapM_cons]
      exact first.bind fun v hv => ih.bind fun vs hvs => Meets.pure (List.Forall₂.cons hv hvs)

theorem Give.mapM (given : Give inv types args) : Meets inv (Row.Fits types) (args.mapM id) :=
  Operands.mapM given

end Eval

theorem Row.Fits.head {row : Row} (fits : Row.Fits (type :: types) row) :
    type.Admits (row.headD .null) := by
  cases fits with
  | cons first _ => exact first

/-! ### What operators compute -/

theorem SqlType.eq_array_of_element? {element : SqlType} (given : type.element? = some element) :
    type = element.array := by
  cases type <;> cases given
  rfl

theorem SqlType.Admits.of_isTruth (truth : v.IsTruth) : type.Admits v := by
  cases v with
  | null => exact SqlType.admits_null
  | bool b => exact SqlType.admits_bool b
  | _ => contradiction

theorem SqlType.Admits.of_isCount (count : v.IsCount) : SqlType.integer.Admits v := by
  cases v with
  | null => exact SqlType.admits_null
  | int i => exact SqlType.admits_int i
  | _ => contradiction

theorem Arithmetic.apply_ok {op : Arithmetic} {l r : Value} (numeric : type.isNumeric)
    (given : op.apply type l r = .ok v) : type.Admits v := by
  unfold Arithmetic.apply at given
  split at given
  · cases given
    exact SqlType.admits_null
  · cases type <;> first | contradiction | skip
    · obtain ⟨i, _, rfl⟩ := Run.map_ok given
      exact SqlType.admits_int i
    · obtain ⟨x, _, rfl⟩ := Run.map_ok given
      exact SqlType.admits_float x

theorem Comparison.apply_isTruth (op : Comparison) (type : SqlType) (l r : Value) :
    (op.apply type l r).IsTruth := by
  unfold Comparison.apply
  cases type.compare? l r <;> trivial

namespace Op

theorem negateValue_ok (given : negateValue v = .ok w) (admitted : type.Admits v) :
    type.Admits w := by
  unfold negateValue at given
  split at given
  · obtain ⟨i, _, rfl⟩ := Run.map_ok given
    rwa [SqlType.admits_int_iff, ← SqlType.admits_int_iff]
  · cases given
    rwa [SqlType.admits_float_iff, ← SqlType.admits_float_iff]
  · cases given
    exact SqlType.admits_null

theorem concatValues_admitted (left : type.Admits v) (right : type.Admits w) :
    type.Admits (concatValues v w) := by
  unfold concatValues
  split
  · exact SqlType.admits_null
  · exact SqlType.admits_null
  · exact SqlType.admits_items.mpr
      (List.forall_mem_append.mpr ⟨SqlType.admits_items.mp left, SqlType.admits_items.mp right⟩)
  · refine SqlType.admits_items.mpr (List.forall_mem_append.mpr ⟨SqlType.admits_items.mp left, ?_⟩)
    simpa using right
  · exact SqlType.admits_items.mpr
      (List.forall_mem_cons.mpr ⟨left, SqlType.admits_items.mp right⟩)
  · exact SqlType.admits_text _

theorem jsonText_admitted (j : Json) : type.Admits (jsonText j) := by
  cases j with
  | null => exact SqlType.admits_null
  | _ => exact SqlType.admits_text _

theorem jsonGetValue_text_admitted (doc key : Value) : type.Admits (jsonGetValue true doc key) := by
  unfold jsonGetValue
  split
  · rename_i key j
    cases jsonPart? j _ with
    | none => exact SqlType.admits_null
    | some part => exact jsonText_admitted part
  · exact SqlType.admits_null

theorem subscriptValue_admitted (admitted : type.Admits v) (i : Value) :
    type.Admits (subscriptValue v i) := by
  unfold subscriptValue
  split
  · rename_i items i
    split
    · rw [List.getD_eq_getElem?_getD]
      cases found : items[(i - 1).toNat]? with
      | none => exact SqlType.admits_null
      | some item => exact SqlType.admits_items.mp admitted item (List.mem_of_getElem? found)
    · exact SqlType.admits_null
  · exact SqlType.admits_null

end Op

namespace Builtin

theorem ofText_admitted {f : String → Value} (given : ∀ s, type.Admits (f s)) (v : Value) :
    type.Admits (ofText f v) := by
  unfold ofText
  split
  · exact given _
  · exact SqlType.admits_null

theorem absolute_ok (given : absolute v = .ok w) (admitted : type.Admits v) : type.Admits w := by
  unfold absolute at given
  split at given
  · obtain ⟨i, _, rfl⟩ := Run.map_ok given
    rwa [SqlType.admits_int_iff, ← SqlType.admits_int_iff]
  · cases given
    rwa [SqlType.admits_float_iff, ← SqlType.admits_float_iff]
  · cases given
    exact SqlType.admits_null

theorem nullIfEqual_admitted (compared : SqlType) (admitted : type.Admits v) (w : Value) :
    type.Admits (nullIfEqual compared v w) := by
  unfold nullIfEqual
  split
  · exact SqlType.admits_null
  · exact admitted

/-- The functions that give a text or nothing. -/
def givesText : Builtin → Bool
  | lower | upper | concat | currentSchema | currentSetting | version => true
  | _ => false

theorem run_text (env : Env) {f : Builtin} (texts : f.givesText) (values : List Value) :
    (f.run env type values).Meets inv type.Admits := by
  cases f with
  | lower => exact Meets.pure (ofText_admitted (fun _ => SqlType.admits_text _) _)
  | upper => exact Meets.pure (ofText_admitted (fun _ => SqlType.admits_text _) _)
  | concat => exact Meets.pure (SqlType.admits_text _)
  | currentSchema => exact Meets.pure (SqlType.admits_text _)
  | version => exact Meets.pure (SqlType.admits_text _)
  | currentSetting =>
      simp only [run]
      split
      · exact Keeps.store.then_meets fun _ => (Keeps.lift _).then_meets fun _ =>
          Meets.pure (SqlType.admits_text _)
      · exact Meets.pure SqlType.admits_null
  | _ => contradiction

/-- The functions that give an integer or nothing. -/
def givesCount : Builtin → Bool
  | length | nextValue | currentValue | setValue => true
  | _ => false

theorem run_count (stable : Eval.Stable env inv) {f : Builtin} (counts : f.givesCount)
    (values : List Value) :
    (f.run env type values).Meets inv SqlType.integer.Admits := by
  cases f with
  | length => exact Meets.pure (ofText_admitted (fun _ => SqlType.admits_int _) _)
  | nextValue => exact (run_meets stable type values (by simp)).mono fun _ => .of_isCount
  | currentValue => exact (run_meets stable type values (by simp)).mono fun _ => .of_isCount
  | setValue => exact (run_meets stable type values (by simp)).mono fun _ => .of_isCount
  | _ => contradiction

end Builtin

/-! ### The types of operators -/

namespace Op

/-- The operators that give a truth value or nothing. -/
def isTest : Op → Bool
  | compare _ _ | conjunction | disjunction | invert | isNull _ | isBool _ _ | inList _ _
  | between _ _ | like _ _ => true
  | _ => false

/-- Operands of the types give a result of the last type. -/
inductive Accepts : Op → List SqlType → SqlType → Prop where
  | convert {c : Conversion} {source type : SqlType} (turns : c.Turns source type) :
      Accepts (.convert c) [source] type
  | arithmetic {op : Arithmetic} {types : List SqlType} {type : SqlType} (numeric : type.isNumeric) :
      Accepts (.arithmetic op) types type
  | test {op : Op} {types : List SqlType} {type : SqlType} (tests : op.isTest) :
      Accepts op types type
  | negate {type : SqlType} : Accepts .negate [type] type
  | concat {left right type : SqlType} (lefts : ∀ v, left.Admits v → type.Admits v)
      (rights : ∀ v, right.Admits v → type.Admits v) : Accepts .concat [left, right] type
  | jsonText {types : List SqlType} {type : SqlType} : Accepts (.jsonGet true) types type
  | jsonPart {types : List SqlType} {type : SqlType} (document : ∀ v, type.Admits v) :
      Accepts (.jsonGet false) types type
  | case {types : List SqlType} {type : SqlType} (same : ∀ t ∈ outcomes types, t = type) :
      Accepts .case types type
  | coalesce {types : List SqlType} {type : SqlType} (same : ∀ t ∈ types, t = type) :
      Accepts (.builtin .coalesce) types type
  | nullIf {types : List SqlType} {type : SqlType} (same : ∀ t ∈ types, t = type) :
      Accepts (.builtin .nullIf) types type
  | abs {type : SqlType} : Accepts (.builtin .abs) [type] type
  | text {f : Builtin} {types : List SqlType} {type : SqlType} (texts : f.givesText) :
      Accepts (.builtin f) types type
  | count {f : Builtin} {types : List SqlType} (counts : f.givesCount) :
      Accepts (.builtin f) types .integer
  | now {types : List SqlType} {type : SqlType} : Accepts (.builtin .now) types type
  | randomUuid {types : List SqlType} {type : SqlType} : Accepts (.builtin .randomUuid) types type
  | typeOf {types : List SqlType} {type : SqlType} : Accepts (.builtin .typeOf) types type
  | array {types : List SqlType} {type : SqlType} (same : ∀ t ∈ types, t = type) :
      Accepts .array types type.array
  | subscript {index type : SqlType} : Accepts .subscript [type.array, index] type

theorem strict_given {f : List Value → Except SqlError Value} (given : Eval.Give inv types args)
    (admitted : ∀ values v, Row.Fits types values → f values = .ok v → type.Admits v) :
    (strict f args).Meets inv type.Admits :=
  given.mapM.bind fun values fits => Meets.lift fun v => admitted values v fits

theorem test_meets {op : Op} (tests : op.isTest)
    (argTypes : List SqlType) (each : ∀ m ∈ args, m.Keeps inv) :
    (op.perform env type argTypes args).Meets inv Value.IsTruth := by
  have given : ∀ f : List Value → Value, (∀ values, (f values).IsTruth) →
      (strict (fun values => .ok (f values)) args).Meets inv Value.IsTruth := by
    intro f truth
    refine strict_meets each fun values v found => ?_
    cases found
    exact truth values
  cases op with
  | compare op type => exact given _ fun _ => op.apply_isTruth _ _ _
  | conjunction => exact logic_meets false each
  | disjunction => exact logic_meets true each
  | invert => exact given _ fun _ => truth_isTruth _ _
  | isNull negated => exact given _ fun _ => trivial
  | isBool value negated => exact given _ fun _ => trivial
  | inList negated type => exact member_meets negated type each
  | between negated type =>
      refine strict_meets each fun values v found => ?_
      split at found <;> cases found
      · exact truth_isTruth _ _
      · trivial
  | like ignoreCase negated => exact matchPattern_meets ignoreCase negated each
  | _ => contradiction

theorem Accepts.perform {op : Op} (accepted : op.Accepts types type)
    (stable : Eval.Stable env inv) (given : Eval.Give inv types args) :
    (op.perform env type types args).Meets inv type.Admits := by
  cases accepted with
  | convert turns =>
      exact strict_given given fun values v fits => turns _ _ v fits.head
  | arithmetic numeric =>
      exact strict_given given fun values v _ => Arithmetic.apply_ok numeric
  | test tests =>
      exact (test_meets tests types (Eval.Operands.keeps given)).mono fun _ => .of_isTruth
  | negate =>
      exact strict_given given fun values v fits found => negateValue_ok found fits.head
  | concat lefts rights =>
      refine strict_given given fun values v fits found => ?_
      obtain _ | ⟨l, _ | ⟨r, _⟩⟩ := fits
      cases found
      exact concatValues_admitted (lefts _ l) (rights _ r)
  | jsonText =>
      refine strict_given given fun values v _ found => ?_
      cases found
      exact jsonGetValue_text_admitted _ _
  | jsonPart document => exact strict_given given fun values v _ _ => document v
  | case same =>
      exact choose_meets SqlType.admits_null (Eval.Operands.keeps given)
        (SqlType.forall_of_same (outcomes_related given) same)
  | coalesce same => exact firstPresent_meets SqlType.admits_null (SqlType.forall_of_same given same)
  | nullIf same =>
      refine given.mapM.bind fun values fits =>
        Meets.pure (Builtin.nullIfEqual_admitted _ ?_ _)
      cases values with
      | nil => exact SqlType.admits_null
      | cons v _ => exact SqlType.forall_of_same fits same v List.mem_cons_self
  | abs =>
      exact given.mapM.bind fun values fits =>
        Meets.lift fun v found => Builtin.absolute_ok found fits.head
  | text texts =>
      rename_i f
      cases f <;> first | contradiction | skip
      all_goals exact given.mapM.bind fun values _ => Builtin.run_text env rfl values
  | count counts =>
      rename_i f
      cases f <;> first | contradiction | skip
      all_goals exact given.mapM.bind fun values _ => Builtin.run_count stable rfl values
  | now =>
      exact given.mapM.bind fun _ _ => Meets.pure (SqlType.admits_of_fits fun _ => rfl)
  | randomUuid =>
      exact given.mapM.bind fun _ _ => (Builtin.drawUuid_keeps stable).then_meets fun _ =>
        Meets.pure (SqlType.admits_of_fits fun _ => rfl)
  | typeOf => exact Meets.pure (SqlType.admits_handle _)
  | array same =>
      refine given.mapM.bind fun values fits => Meets.lift fun v found => ?_
      cases found
      refine SqlType.admits_array_iff.mpr (SqlType.admits_items.mpr ?_)
      exact SqlType.forall_of_same fits same
  | subscript =>
      refine strict_given given fun values v fits found => ?_
      cases found
      exact subscriptValue_admitted fits.head _

end Op

end SqlEngine
