import SqlEngine.Proofs.Types.ConversionSafety
import SqlEngine.Proofs.Typing.Judgement

/-!
Expressions whose values are exactly of their types.

`Expr.Typed` tells integers from floats, which is all that orders and keys depend on. Here the value
of an expression is one of its type in every respect. Some operators do not promise that. An item of
an array may be an array again, although it is given the type of the elements, and an array of
arrays takes up a single item as it is. Numbers of characters and of sequences may have more than 64
bits. Without these operators, and apart from the values of subqueries, expressions give values of
their types only, so that no operator meets an operand that it is not made for.
-/

namespace SqlEngine

open Eval (Keeps Meets Operands)

/-- The values of a row are of the types of its columns. -/
abbrev Row.Of (types : List SqlType) (row : Row) : Prop :=
  List.Forall₂ (fun type v => type.includes v) types row

/-- The function gives values of the type that it declares. -/
def HostFunction.IsFaithful (f : HostFunction) : Prop :=
  ∀ args v, f.body args = .ok v → f.signature.returns.includes v

theorem HostFunction.IsFaithful.call_ok {f : HostFunction} {args : List Value} {v : Value}
    (faithful : f.IsFaithful) (given : f.call args = .ok v) : f.signature.returns.includes v := by
  unfold HostFunction.call at given
  split at given
  · cases given
    exact SqlType.includes_null _
  · exact faithful args v given

/-! ### What operators compute -/

section Values

variable {env : Env} {inv : EvalState → Prop} {type element : SqlType} {u v w : Value}

theorem SqlType.includes_of_isTruth (truth : v.IsTruth) : bool.includes v := by
  cases v with
  | null | bool b => rfl
  | _ => contradiction

theorem SqlType.numeric_cases (numeric : type.isNumeric) (held : type.includes v) :
    v = .null ∨ (type = .integer ∧ ∃ i, v = .int i) ∨ type = .float ∧ ∃ x, v = .float x := by
  cases type with
  | integer =>
      cases v with
      | null => exact .inl rfl
      | int i => exact .inr (.inl ⟨rfl, i, rfl⟩)
      | _ => cases held
  | float =>
      cases v with
      | null => exact .inl rfl
      | float x => exact .inr (.inr ⟨rfl, x, rfl⟩)
      | _ => cases held
  | _ => contradiction

theorem SqlType.ne_array (type : SqlType) : type ≠ type.array := by
  intro same
  have size := congrArg sizeOf same
  rw [SqlType.array.sizeOf_spec] at size
  omega

namespace Arithmetic

theorem int64_fits {i j : Int} (given : int64 i = .ok j) : Numeral.fitsInt64 j := by
  unfold int64 at given
  split at given
  · cases given
    assumption
  · cases given

/-- A remainder is nearer to zero than the divisor. -/
theorem tmod_fits {a b : Int} (fits : Numeral.fitsInt64 b) (notZero : b ≠ 0) :
    Numeral.fitsInt64 (a.tmod b) := by
  have size := Int.natAbs_tmod a b
  have less : a.natAbs % b.natAbs < b.natAbs := Nat.mod_lt _ (Int.natAbs_pos.mpr notZero)
  unfold Numeral.fitsInt64 Numeral.minInt64 Numeral.maxInt64 at *
  rw [Bool.and_eq_true, decide_eq_true_eq, decide_eq_true_eq] at *
  generalize Nat.pow 2 63 = bound at *
  omega

theorem ofInts_fits {op : Arithmetic} {a b i : Int} (fits : Numeral.fitsInt64 b)
    (given : op.ofInts a b = .ok i) : Numeral.fitsInt64 i := by
  cases op with
  | add | subtract | multiply => exact int64_fits given
  | divide =>
      simp only [ofInts] at given
      split at given
      · cases given
      · exact int64_fits given
  | modulo =>
      simp only [ofInts] at given
      split at given
      · cases given
      · rename_i notZero
        obtain ⟨_, _, rfl⟩ := Run.map_ok given
        exact tmod_fits fits (by simpa using notZero)

theorem apply_included {op : Arithmetic} (numeric : type.isNumeric) (held : type.includes w)
    (given : op.apply type v w = .ok u) : type.includes u := by
  unfold apply at given
  split at given
  · cases given
    exact SqlType.includes_null _
  · cases type with
    | integer =>
        obtain ⟨i, computed, rfl⟩ := Run.map_ok given
        refine ofInts_fits ?_ computed
        cases w with
        | int b => exact held
        | _ => rfl
    | float =>
        obtain ⟨x, _, rfl⟩ := Run.map_ok given
        rfl
    | _ => contradiction

end Arithmetic

namespace Op

theorem negateValue_included (numeric : type.isNumeric) (held : type.includes v)
    (given : negateValue v = .ok w) : type.includes w := by
  rcases SqlType.numeric_cases numeric held with rfl | ⟨rfl, i, rfl⟩ | ⟨rfl, x, rfl⟩
  · cases given
    exact SqlType.includes_null _
  · obtain ⟨j, negated, rfl⟩ := Run.map_ok given
    exact Arithmetic.int64_fits negated
  · cases given
    rfl

theorem concatValues_texts (first : (SqlType.text none).includes v)
    (second : (SqlType.text none).includes w) :
    (SqlType.text none).includes (concatValues v w) := by
  cases v with
  | null => rfl
  | text s =>
      cases w with
      | null => rfl
      | text t => rfl
      | _ => cases second
  | _ => cases first

/-- Items of an array: arrays of the type, or single items. -/
theorem includes_items {items : List Value} (held : element.array.includes (.array items)) :
    ∀ v ∈ items, Conversion.IsItem element v :=
  SqlType.includes_array_iff.mp held

theorem concatValues_arrays (first : element.array.includes v) (second : element.array.includes w) :
    element.array.includes (concatValues v w) := by
  rcases SqlType.includes_array_cases first with rfl | ⟨xs, rfl⟩
  · exact SqlType.includes_null _
  · rcases SqlType.includes_array_cases second with rfl | ⟨ys, rfl⟩
    · exact SqlType.includes_null _
    · exact SqlType.includes_array_iff.mpr
        (List.forall_mem_append.mpr ⟨includes_items first, includes_items second⟩)

theorem concatValues_null (v : Value) : concatValues v .null = .null := by
  cases v <;> rfl

/-- A value that is no array is put behind an array, or in front of it. -/
theorem concatValues_item (noItems : element.element? = none)
    (array : element.array.includes v) (item : element.includes w) :
    element.array.includes (concatValues v w) ∧ element.array.includes (concatValues w v) := by
  rcases SqlType.includes_array_cases array with rfl | ⟨xs, rfl⟩
  · rw [concatValues_null]
    exact ⟨SqlType.includes_null _, SqlType.includes_null _⟩
  · have fits : Conversion.IsItem element w := .inl item
    have behind : element.array.includes (.array (xs ++ [w])) := SqlType.includes_array_iff.mpr
      (List.forall_mem_append.mpr ⟨includes_items array, List.forall_mem_singleton.mpr fits⟩)
    have before : element.array.includes (.array (w :: xs)) := SqlType.includes_array_iff.mpr
      (List.forall_mem_cons.mpr ⟨fits, includes_items array⟩)
    cases w with
    | null => exact ⟨SqlType.includes_null _, SqlType.includes_null _⟩
    | array ys =>
        rw [SqlType.not_includes_array noItems] at item
        cases item
    | _ => exact ⟨behind, before⟩

theorem jsonGetValue_text_included (doc key : Value) :
    (SqlType.text none).includes (jsonGetValue true doc key) := by
  unfold jsonGetValue
  split
  · rename_i key j
    cases jsonPart? j _ with
    | none => rfl
    | some part => cases part <;> rfl
  · rfl

theorem jsonGetValue_document_included (doc key : Value) :
    SqlType.jsonb.includes (jsonGetValue false doc key) := by
  unfold jsonGetValue
  split
  · rename_i key j
    cases jsonPart? j _ <;> rfl
  · rfl

/-- An array of arrays has arrays for items. -/
theorem subscriptValue_included (held : element.array.array.includes v) (position : Value) :
    element.array.includes (subscriptValue v position) := by
  unfold subscriptValue
  split
  · rename_i items i
    split
    · rw [List.getD_eq_getElem?_getD]
      cases found : items[(i - 1).toNat]? with
      | none => exact SqlType.includes_null _
      | some item =>
          have member := List.mem_of_getElem? found
          exact (includes_items held item member).elim id (SqlType.includes_of_nested item)
    · exact SqlType.includes_null _
  · exact SqlType.includes_null _

/-- With one dimension in the type, the item of a nested array is an array under the type of the
elements. -/
example : SqlType.integer.array.includes (.array [.array [.int 1, .int 2]]) ∧
    subscriptValue (.array [.array [.int 1, .int 2]]) (.int 1) = .array [.int 1, .int 2] :=
  ⟨by decide +kernel, rfl⟩

end Op

namespace Builtin

theorem ofText_included {f : String → Value} (given : ∀ s, type.includes (f s)) (v : Value) :
    type.includes (ofText f v) := by
  unfold ofText
  split
  · exact given _
  · exact SqlType.includes_null _

theorem absolute_included (numeric : type.isNumeric) (held : type.includes v)
    (given : absolute v = .ok w) : type.includes w := by
  rcases SqlType.numeric_cases numeric held with rfl | ⟨rfl, i, rfl⟩ | ⟨rfl, x, rfl⟩
  · cases given
    exact SqlType.includes_null _
  · obtain ⟨j, computed, rfl⟩ := Run.map_ok given
    exact Arithmetic.int64_fits computed
  · cases given
    rfl

theorem nullIfEqual_included (compared : SqlType) (held : type.includes v) (w : Value) :
    type.includes (nullIfEqual compared v w) := by
  unfold nullIfEqual
  split
  · exact SqlType.includes_null _
  · exact held

theorem run_text_included {f : Builtin} (texts : f.givesText)
    (every : ∀ s, type.includes (.text s)) (values : List Value) :
    (f.run env type values).Meets inv (type.includes ·) := by
  cases f with
  | lower => exact Meets.pure (ofText_included (fun _ => every _) _)
  | upper => exact Meets.pure (ofText_included (fun _ => every _) _)
  | concat => exact Meets.pure (every _)
  | currentSchema => exact Meets.pure (every _)
  | version => exact Meets.pure (every _)
  | currentSetting =>
      simp only [run]
      split
      · exact Keeps.store.then_meets fun _ => (Keeps.lift _).then_meets fun _ =>
          Meets.pure (every _)
      · exact Meets.pure (SqlType.includes_null _)
  | _ => contradiction

end Builtin

end Values

/-! ### The types of operators -/

namespace Op

/-- Does the operator give values of its type only, given values of the types of its operands? -/
def isExact (operands : List SqlType) (result : SqlType) : Op → Bool
  | subscript => result.element?.isSome
  | concat => operands.all (· = result) || (result.element?.bind SqlType.element?).isNone
  | builtin f => !f.givesCount
  | _ => true

/-- The types that the operands and the result of an operator have in a built expression. -/
inductive Regular : Op → List SqlType → SqlType → Prop where
  | convert {c : Conversion} {source type : SqlType} {explicit : Bool}
      (planned : Conversion.plan? source type explicit = some c) :
      Regular (.convert c) [source] type
  | arithmetic {op : Arithmetic} {left type : SqlType} (numeric : type.isNumeric) :
      Regular (.arithmetic op) [left, type] type
  | negate {type : SqlType} (numeric : type.isNumeric) : Regular .negate [type] type
  | concatTexts : Regular .concat [.text none, .text none] (.text none)
  /-- An item in front of an array, or an array with an array or an item behind it. -/
  | concatArrays {left right element : SqlType}
      (lefts : left = element.array ∨ left = element)
      (rights : right = element.array ∨ right = element)
      (array : left = element.array ∨ right = element.array) :
      Regular .concat [left, right] element.array
  | jsonText {types : List SqlType} : Regular (.jsonGet true) types (.text none)
  | jsonPart {types : List SqlType} {type : SqlType} (document : type = .json ∨ type = .jsonb) :
      Regular (.jsonGet false) types type
  | case {types : List SqlType} {type : SqlType} (same : ∀ t ∈ outcomes types, t = type) :
      Regular .case types type
  | coalesce {types : List SqlType} {type : SqlType} (same : ∀ t ∈ types, t = type) :
      Regular (.builtin .coalesce) types type
  | nullIf {types : List SqlType} {type : SqlType} (same : ∀ t ∈ types, t = type) :
      Regular (.builtin .nullIf) types type
  | abs {type : SqlType} (numeric : type.isNumeric) : Regular (.builtin .abs) [type] type
  | text {f : Builtin} {types : List SqlType} {type : SqlType} (texts : f.givesText)
      (every : ∀ s, type.includes (.text s)) : Regular (.builtin f) types type
  | count {f : Builtin} {types : List SqlType} (counts : f.givesCount) :
      Regular (.builtin f) types .integer
  | now {types : List SqlType} : Regular (.builtin .now) types .timestamp
  | randomUuid {types : List SqlType} : Regular (.builtin .randomUuid) types .uuid
  | typeOf {types : List SqlType} : Regular (.builtin .typeOf) types .regtype
  | array {types : List SqlType} {type : SqlType} (same : ∀ t ∈ types, t = type) :
      Regular .array types type.array
  | subscript {index type : SqlType} : Regular .subscript [type.array, index] type

variable {env : Env} {inv : EvalState → Prop} {types : List SqlType} {type : SqlType}
  {args : List (Eval Value)}

/-- Tests are not among these operators: they give a truth value whatever their operands are. -/
theorem Regular.isTest {op : Op} (regular : op.Regular types type) : op.isTest = false := by
  cases regular <;> rfl

theorem concatValues_included {left right element : SqlType} {v w : Value}
    (lefts : left = element.array ∨ left = element)
    (rights : right = element.array ∨ right = element)
    (array : left = element.array ∨ right = element.array)
    (exact : concat.isExact [left, right] element.array) (first : left.includes v)
    (second : right.includes w) : element.array.includes (concatValues v w) := by
  have noItems : left = element ∨ right = element → element.element? = none := by
    intro item
    simp only [isExact, List.all_cons, List.all_nil, Bool.and_true, SqlType.element?,
      Option.bind_some, Bool.or_eq_true, Bool.and_eq_true, decide_eq_true_eq,
      Option.isNone_iff_eq_none] at exact
    rcases exact with ⟨rfl, rfl⟩ | plain
    · exact absurd (item.elim id id).symm element.ne_array
    · exact plain
  rcases lefts with rfl | isItem
  · rcases rights with rfl | isItem
    · exact concatValues_arrays first second
    · exact (concatValues_item (noItems (.inr isItem)) first (isItem ▸ second)).1
  · rcases array with isArray | rfl
    · exact absurd (isItem.symm.trans isArray) element.ne_array
    · exact (concatValues_item (noItems (.inl isItem)) second (isItem ▸ first)).2

theorem strict_included {f : List Value → Except SqlError Value}
    (given : Operands inv (fun t v => t.includes v) types args)
    (included : ∀ values v, Row.Of types values → f values = .ok v → type.includes v) :
    (strict f args).Meets inv (type.includes ·) :=
  given.mapM.bind fun values fits => Meets.lift fun v => included values v fits

theorem Regular.perform {op : Op} (regular : op.Regular types type) (exact : op.isExact types type)
    (stable : Eval.Stable env inv) (numbered : env.catalog.registry.Numbered)
    (given : Operands inv (fun t v => t.includes v) types args) :
    (op.perform env type types args).Meets inv (type.includes ·) := by
  cases regular with
  | convert planned =>
      refine strict_included given fun values v fits converted => ?_
      obtain _ | ⟨held, _⟩ := fits
      exact ((Conversion.plan_sound numbered planned).converts _ held).given v converted
  | arithmetic numeric =>
      refine strict_included given fun values v fits computed => ?_
      obtain _ | ⟨_, _ | ⟨held, _⟩⟩ := fits
      exact Arithmetic.apply_included numeric held computed
  | negate numeric =>
      refine strict_included given fun values v fits computed => ?_
      obtain _ | ⟨held, _⟩ := fits
      exact negateValue_included numeric held computed
  | concatTexts =>
      refine strict_included given fun values v fits found => ?_
      obtain _ | ⟨first, _ | ⟨second, _⟩⟩ := fits
      cases found
      exact concatValues_texts first second
  | concatArrays lefts rights array =>
      refine strict_included given fun values v fits found => ?_
      obtain _ | ⟨first, _ | ⟨second, _⟩⟩ := fits
      cases found
      exact concatValues_included lefts rights array exact first second
  | jsonText =>
      refine strict_included given fun values v _ found => ?_
      cases found
      exact jsonGetValue_text_included _ _
  | jsonPart document =>
      refine strict_included given fun values v _ found => ?_
      cases found
      rcases document with rfl | rfl
      · exact SqlType.includes_json_iff.mpr (jsonGetValue_document_included _ _)
      · exact jsonGetValue_document_included _ _
  | case same =>
      exact choose_meets (SqlType.includes_null _) given.keeps
        (SqlType.forall_of_same (outcomes_related given) same)
  | coalesce same =>
      exact firstPresent_meets (SqlType.includes_null _) (SqlType.forall_of_same given same)
  | nullIf same =>
      refine given.mapM.bind fun values fits =>
        Meets.pure (Builtin.nullIfEqual_included _ ?_ _)
      cases values with
      | nil => exact SqlType.includes_null _
      | cons v _ => exact SqlType.forall_of_same fits same v List.mem_cons_self
  | abs numeric =>
      refine given.mapM.bind fun values fits => Meets.lift fun v computed => ?_
      obtain _ | ⟨held, _⟩ := fits
      exact Builtin.absolute_included numeric held computed
  | text texts every =>
      rename_i f
      cases f <;> first | contradiction | skip
      all_goals exact given.mapM.bind fun values _ => Builtin.run_text_included rfl every values
  | count counts => simp [isExact, counts] at exact
  | now => exact given.mapM.bind fun _ _ => Meets.pure rfl
  | randomUuid =>
      exact given.mapM.bind fun _ _ => (Builtin.drawUuid_keeps stable).then_meets fun _ =>
        Meets.pure rfl
  | typeOf => exact Meets.pure rfl
  | array same =>
      refine strict_included given fun values v fits found => ?_
      cases found
      exact SqlType.includes_array_iff.mpr fun v member =>
        .inl (SqlType.forall_of_same fits same v member)
  | subscript =>
      refine strict_included given fun values v fits found => ?_
      obtain _ | ⟨held, _⟩ := fits
      cases found
      obtain ⟨element, nested⟩ := Option.isSome_iff_exists.mp exact
      obtain rfl := SqlType.eq_array_of_element? nested
      exact subscriptValue_included held _

end Op

/-! ### The values of expressions -/

mutual

/-- Are the types in an expression those that it is built with? It stands over rows with columns of
some types, in the rows of enclosing queries. Nothing is said of subqueries. -/
def Expr.Regular (columns : List SqlType) (enclosing : List (List SqlType)) : Expr → Prop
  | .constant v type => type.includes v
  | .column index type => SqlType.At columns index type
  | .outer levels index type => ∀ types, enclosing[levels - 1]? = some types →
    SqlType.At types index type
  | .apply op args type => op.isTest ∧ type = .bool ∨
    Expr.AllRegular columns enclosing args ∧ op.Regular (args.map Expr.type) type
  | .call f _ => f.IsFaithful
  | .aggregate _ _ | .scalar _ _ | .hasRows _ _ | .among _ _ _ _ => True

def Expr.AllRegular (columns : List SqlType) (enclosing : List (List SqlType)) :
    List Expr → Prop
  | [] => True
  | e :: rest => e.Regular columns enclosing ∧ Expr.AllRegular columns enclosing rest

end

mutual

/-- Do all operators that the value is made by give values of their types only? The value of a
subquery is not looked into; tests and host functions give what they give for any operands. -/
def Expr.isExact : Expr → Bool
  | .apply op args type => op.isTest || (op.isExact (args.map Expr.type) type && Expr.allExact args)
  | .scalar _ _ => false
  | _ => true

def Expr.allExact : List Expr → Bool
  | [] => true
  | e :: rest => e.isExact && Expr.allExact rest

end

section Evaluation

variable {env : Env} {inv : EvalState → Prop} {columns : List SqlType}
  {enclosing : List (List SqlType)} {outer : List Row} {row : Row}

theorem Expr.allRegular_iff {es : List Expr} :
    AllRegular columns enclosing es ↔ ∀ e ∈ es, e.Regular columns enclosing := by
  induction es with
  | nil => simp [AllRegular]
  | cons e rest ih => simp [AllRegular, ih]

theorem Row.Of.at {types : List SqlType} {index : Nat} {type : SqlType} {v : Value}
    (fits : Row.Of types row) (found : row[index]? = some v) (at_ : SqlType.At types index type) :
    type.includes v := by
  obtain ⟨inside, rfl⟩ := List.getElem?_eq_some_iff.mp found
  have typesInside : index < types.length := fits.length_eq ▸ inside
  rw [← at_ _ (List.getElem?_eq_getElem typesInside)]
  exact fits.get typesInside inside

mutual

theorem Expr.Regular.eval (stable : Eval.Stable env inv)
    (numbered : env.catalog.registry.Numbered) (fits : Row.Of columns row)
    (around : List.Forall₂ Row.Of enclosing outer) : ∀ {e : Expr},
      e.Regular columns enclosing → e.isExact →
        (e.eval env outer row).Meets inv (e.type.includes ·)
  | .constant _ _, held, _ => Meets.pure held
  | .column index type, at_, _ => by
      unfold Expr.eval
      split
      · rename_i v found
        exact Meets.pure (fits.at found at_)
      · exact Meets.throw _
  | .outer levels index type, regular, _ => by
      unfold Expr.eval
      split
      · rename_i v found
        refine Meets.pure ?_
        split at found
        · cases found
        · obtain ⟨enclosingRow, reached, found⟩ := Option.bind_eq_some_iff.mp found
          obtain ⟨inside, rfl⟩ := List.getElem?_eq_some_iff.mp reached
          have typesInside : levels - 1 < enclosing.length := around.length_eq ▸ inside
          exact Row.Of.at (around.get typesInside inside) found
            (regular _ (List.getElem?_eq_getElem typesInside))
      · exact Meets.throw _
  | .aggregate _ _, _, _ => Meets.throw _
  | .apply op args type, regular, exact => by
      have each := Expr.actions_keep stable outer row args
      rcases regular with ⟨tests, rfl⟩ | ⟨regularArgs, regular⟩
      · exact (Op.test_meets tests _ each).mono fun _ => SqlType.includes_of_isTruth
      · rw [Expr.isExact, regular.isTest, Bool.false_or, Bool.and_eq_true] at exact
        exact regular.perform exact.1 stable numbered
          (Expr.AllRegular.actions stable numbered fits around regularArgs exact.2)
  | .call f args, faithful, _ => by
      refine (Keeps.mapM (Expr.actions_keep stable outer row args)).then_meets fun values => ?_
      exact Meets.lift fun v given => faithful.call_ok given
  | .hasRows query _, _, _ =>
      (query.cursor_keeps stable (row :: outer)).hasRow.bind fun _ _ => Meets.pure rfl
  | .among arg query negated type, _, _ => by
      refine (arg.eval_keeps stable outer row).then_meets fun v => ?_
      split
      · exact Meets.pure rfl
      · exact ((query.cursor_keeps stable (row :: outer)).among type v).bind fun _ _ =>
          Meets.pure (SqlType.includes_of_isTruth (Op.truth_isTruth _ _))

theorem Expr.AllRegular.actions (stable : Eval.Stable env inv)
    (numbered : env.catalog.registry.Numbered) (fits : Row.Of columns row)
    (around : List.Forall₂ Row.Of enclosing outer) : ∀ {es : List Expr},
      Expr.AllRegular columns enclosing es → Expr.allExact es →
        Operands inv (fun t v => t.includes v) (es.map Expr.type) (Expr.actions env outer row es)
  | [], _, _ => List.Forall₂.nil
  | _ :: _, ⟨first, rest⟩, exact => by
      obtain ⟨exactFirst, exactRest⟩ := Bool.and_eq_true_iff.mp exact
      exact List.Forall₂.cons (first.eval stable numbered fits around exactFirst)
        (Expr.AllRegular.actions stable numbered fits around rest exactRest)

end

end Evaluation

end SqlEngine
