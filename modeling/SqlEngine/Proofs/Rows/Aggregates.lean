import Mathlib.Algebra.BigOperators.Group.List.Basic
import Mathlib.Algebra.Ring.Int.Defs
import Mathlib.Data.List.Infix
import SqlEngine.Proofs.Rows.Groups

/-!
Aggregates over the values of a group.

A sum of integers is held within 64 bits after every value. So whether it is found depends on all
totals on the way, and with them on the order of the values; what is found does not. An aggregate of
distinct values gives what it gives without DISTINCT for the values that are equal to no earlier one.
-/

namespace SqlEngine

/-- What a call gives over the values of a group. -/
def AggregateCall.outcome (c : AggregateCall) (values : List Value) : Except SqlError Value :=
  (c.fed values).map (·.result c.separator)

/-! ### Totals -/

theorem Numeral.fitsInt64_iff {i : Int} :
    fitsInt64 i ↔ minInt64 ≤ i ∧ i ≤ maxInt64 := by
  simp [fitsInt64]

theorem Numeral.fitsInt64_zero : fitsInt64 0 := by decide

namespace Value

/-- The sum of the integers among the values; NULL adds nothing. -/
def total (values : List Value) : Int := (values.filterMap int?).sum

/-- The sum of the integers among the values that meet a condition. -/
def totalOf (p : Int → Bool) (values : List Value) : Int :=
  ((values.filterMap int?).filter p).sum

/-- The sum of the positive integers among the values. -/
def gains (values : List Value) : Int := totalOf (0 < ·) values

/-- The sum of the negative integers among the values. -/
def losses (values : List Value) : Int := totalOf (· < 0) values

variable {v : Value} {values other part rest : List Value} {start : Int} {p : Int → Bool}

theorem total_nil : total [] = 0 := rfl

theorem total_cons (v : Value) (rest : List Value) :
    total (v :: rest) = v.int?.getD 0 + total rest := by
  cases known : v.int? <;> simp [total, known]

theorem totalOf_cons (zero : p 0 = false) (v : Value) (rest : List Value) :
    totalOf p (v :: rest) =
      (if p (v.int?.getD 0) then v.int?.getD 0 else 0) + totalOf p rest := by
  cases known : v.int? with
  | none => simp [totalOf, known, zero]
  | some i => cases met : p i <;> simp [totalOf, known, met]

theorem total_of_missing (missing : values.all isNull) : total values = 0 := by
  induction values with
  | nil => rfl
  | cons v rest ih =>
      rw [List.all_cons, Bool.and_eq_true] at missing
      rw [eq_null_of_isNull missing.1, total_cons, ih missing.2]
      rfl

theorem total_perm (perm : values.Perm other) : total values = total other :=
  (perm.filterMap int?).sum_eq

theorem totalOf_perm (perm : values.Perm other) : totalOf p values = totalOf p other :=
  ((perm.filterMap int?).filter p).sum_eq

/-- A total on the way lies between the sum of what is lost and the sum of what is gained. -/
theorem total_between (before : part <+: values) :
    losses values ≤ total part ∧ total part ≤ gains values := by
  induction values generalizing part with
  | nil =>
      rw [List.prefix_nil.mp before]
      exact ⟨Int.le_refl 0, Int.le_refl 0⟩
  | cons v rest ih =>
      have gained : gains (v :: rest) = max (v.int?.getD 0) 0 + gains rest := by
        rw [gains, totalOf_cons (by decide), gains]
        grind
      have lost : losses (v :: rest) = min (v.int?.getD 0) 0 + losses rest := by
        rw [losses, totalOf_cons (by decide), losses]
        grind
      rw [gained, lost]
      obtain rfl | ⟨short, rfl, shorter⟩ := List.prefix_cons_iff.mp before
      · have inside := ih (List.nil_prefix (l := rest))
        rw [total_nil] at inside ⊢
        omega
      · have inside := ih shorter
        rw [total_cons]
        omega

theorem total_filter (zero : p 0 = false) (values : List Value) :
    total (values.filter fun v => p (v.int?.getD 0)) = totalOf p values := by
  induction values with
  | nil => rfl
  | cons v rest ih =>
      rw [totalOf_cons zero, ← ih, List.filter_cons]
      split
      · rw [total_cons]
      · rw [Int.zero_add]

/-! ### Totals within 64 bits -/

/-- Are the totals within 64 bits, from the start to the end? -/
def StaysWithin (start : Int) (values : List Value) : Prop :=
  ∀ part, part <+: values → Numeral.fitsInt64 (start + total part)

theorem StaysWithin.fits_start (within : StaysWithin start values) : Numeral.fitsInt64 start := by
  simpa [total_nil] using within [] List.nil_prefix

theorem staysWithin_cons : StaysWithin start (v :: rest) ↔
    Numeral.fitsInt64 start ∧ StaysWithin (start + v.int?.getD 0) rest := by
  constructor
  · refine fun within => ⟨within.fits_start, fun part before => ?_⟩
    have here := within (v :: part) (List.cons_prefix_cons.mpr ⟨rfl, before⟩)
    rwa [total_cons, ← Int.add_assoc] at here
  · rintro ⟨fits, within⟩ part before
    obtain rfl | ⟨short, rfl, shorter⟩ := List.prefix_cons_iff.mp before
    · simpa [total_nil] using fits
    · rw [total_cons, ← Int.add_assoc]
      exact within short shorter

/-- Where the whole total is within 64 bits, one of the values leads to a total that is, too. -/
theorem exists_next (filled : values ≠ []) (each : ∀ v ∈ values, Numeral.fitsInt64 (v.int?.getD 0))
    (here : Numeral.fitsInt64 start) (whole : Numeral.fitsInt64 (start + total values)) :
    ∃ v ∈ values, Numeral.fitsInt64 (start + v.int?.getD 0) := by
  have low : Numeral.minInt64 ≤ 0 := by decide
  have high : 0 ≤ Numeral.maxInt64 := by decide
  simp only [Numeral.fitsInt64_iff] at *
  by_cases opposite : ∃ v ∈ values, (0 ≤ start → v.int?.getD 0 ≤ 0) ∧ (start < 0 → 0 ≤ v.int?.getD 0)
  · obtain ⟨v, member, down, up⟩ := opposite
    have fits := each v member
    exact ⟨v, member, by omega⟩
  · -- all values go away from zero, so the first total is between the start and the whole
    push Not at opposite
    have outward : ∀ part : List Value, (∀ v ∈ part, v ∈ values) →
        (0 ≤ start → 0 ≤ total part) ∧ (start < 0 → total part ≤ 0) := by
      intro part
      induction part with
      | nil => exact fun _ => ⟨fun _ => Int.le_refl 0, fun _ => Int.le_refl 0⟩
      | cons v rest ih =>
          intro within
          obtain ⟨first, others⟩ := List.forall_mem_cons.mp within
          have away := opposite v first
          have later := ih others
          rw [total_cons]
          omega
    cases values with
    | nil => exact absurd rfl filled
    | cons v rest =>
        have away := opposite v List.mem_cons_self
        have later := outward rest fun w member => List.mem_cons_of_mem v member
        rw [total_cons] at whole
        exact ⟨v, List.mem_cons_self, by omega⟩

/-- In some order all totals are within 64 bits if the whole one is. -/
theorem exists_order (values : List Value) :
    ∀ start, (∀ v ∈ values, Numeral.fitsInt64 (v.int?.getD 0)) → Numeral.fitsInt64 start →
      Numeral.fitsInt64 (start + total values) →
        ∃ order, order.Perm values ∧ StaysWithin start order := by
  induction length : values.length generalizing values with
  | zero =>
      intro start _ here _
      obtain rfl := List.length_eq_zero_iff.mp length
      refine ⟨[], .nil, fun part before => ?_⟩
      simpa [List.prefix_nil.mp before, total_nil] using here
  | succ n ih =>
      intro start each here whole
      have filled : values ≠ [] := List.ne_nil_of_length_eq_add_one length
      obtain ⟨v, member, next⟩ := exists_next filled each here whole
      obtain ⟨before, after, rfl⟩ := List.append_of_mem member
      have moved : (before ++ v :: after).Perm (v :: (before ++ after)) := List.perm_middle
      rw [total_perm moved, total_cons, ← Int.add_assoc] at whole
      have shorter : (before ++ after).length = n := by
        have same := moved.length_eq
        rw [List.length_cons] at same
        omega
      have others : ∀ w ∈ before ++ after, Numeral.fitsInt64 (w.int?.getD 0) :=
        fun w inside => each w (moved.mem_iff.mpr (List.mem_cons_of_mem v inside))
      obtain ⟨order, perm, within⟩ := ih (before ++ after) shorter _ others next whole
      exact ⟨v :: order, (perm.cons v).trans moved.symm, staysWithin_cons.mpr ⟨here, within⟩⟩

end Value

/-! ### Sums of integers -/

namespace Accumulator

variable {func : AggregateFunc} {argType : Option SqlType} {tally : Tally} {v : Value}

theorem add_plain (func : AggregateFunc) (argType : Option SqlType) (tally : Tally) (v : Value) :
    add ⟨func, argType, none, tally⟩ v =
      if takes func v then (tally.add argType v).map (⟨func, argType, none, ·⟩)
      else .ok ⟨func, argType, none, tally⟩ := by
  unfold add
  by_cases rows : func = .countRows
  · subst rows
    have taken : takes .countRows v = true := by simp [takes]
    rw [if_pos taken]
    rfl
  · have others : (func == .countRows) = false := by simpa using rows
    cases takes func v <;> simp only [others] <;> rfl

end Accumulator

open Value (total gains losses StaysWithin staysWithin_cons)

/-- An accumulator of a sum of integers. -/
def Accumulator.summing (sum : Option Int) : Accumulator := ⟨.sum, some .integer, none, .intSum sum⟩

theorem Accumulator.summing_add {v : Value} (present : v.isNull = false) (sum : Option Int) :
    (summing sum).add v =
      if Numeral.fitsInt64 (sum.getD 0 + v.int?.getD 0)
      then .ok (summing (some (sum.getD 0 + v.int?.getD 0)))
      else .error (.query .integerOutOfRange) := by
  have taken : takes .sum v = true := by simp [takes, present]
  rw [summing, add_plain, if_pos taken, Tally.add]
  split <;> rfl

theorem Accumulator.foldlM_summing (values : List Value) : ∀ sum : Option Int,
    Numeral.fitsInt64 (sum.getD 0) →
      (StaysWithin (sum.getD 0) values →
        values.foldlM add (summing sum) = .ok (summing
          (if values.all Value.isNull then sum else some (sum.getD 0 + total values)))) ∧
      (¬StaysWithin (sum.getD 0) values →
        values.foldlM add (summing sum) = .error (.query .integerOutOfRange)) := by
  induction values with
  | nil =>
      refine fun sum here => ⟨fun _ => rfl, fun outside => absurd (fun part before => ?_) outside⟩
      simpa [List.prefix_nil.mp before, Value.total_nil] using here
  | cons v rest ih =>
      intro sum here
      rw [staysWithin_cons, List.foldlM_cons, and_iff_right here, List.all_cons]
      cases present : v.isNull with
      | true =>
          obtain rfl := Value.eq_null_of_isNull present
          have kept : (summing sum).add .null = .ok (summing sum) := rfl
          have same : total (.null :: rest) = total rest := rfl
          have nothing : sum.getD 0 + Value.null.int?.getD 0 = sum.getD 0 := Int.add_zero _
          rw [kept, same, nothing]
          exact ih sum here
      | false =>
          rw [summing_add present]
          by_cases fits : Numeral.fitsInt64 (sum.getD 0 + v.int?.getD 0)
          · rw [if_pos fits]
            obtain ⟨found, failed⟩ := ih (some (sum.getD 0 + v.int?.getD 0)) fits
            refine ⟨fun within => (found within).trans ?_, failed⟩
            rw [Value.total_cons, ← Int.add_assoc]
            cases none : rest.all Value.isNull with
            | false => rfl
            | true => simp [Value.total_of_missing none]
          · rw [if_neg fits]
            exact ⟨fun within => absurd within.fits_start fits, fun _ => rfl⟩

namespace AggregateCall

/-- The sum of a column of integers. -/
def integerSum : AggregateCall := ⟨.sum, some .integer, none, false, .integer⟩

variable {values order : List Value}

theorem integerSum_outcome_of_within (within : StaysWithin 0 values) :
    integerSum.outcome values =
      .ok (if values.all Value.isNull then .null else .int (total values)) := by
  have found := (Accumulator.foldlM_summing values none Numeral.fitsInt64_zero).1 within
  have started : integerSum.fed values = values.foldlM Accumulator.add (.summing none) := rfl
  rw [outcome, started, found, Option.getD_none, Int.zero_add]
  cases values.all Value.isNull <;> rfl

theorem integerSum_outcome_of_not_within (outside : ¬StaysWithin 0 values) :
    integerSum.outcome values = .error (.query .integerOutOfRange) := by
  have failed := (Accumulator.foldlM_summing values none Numeral.fitsInt64_zero).2 outside
  have started : integerSum.fed values = values.foldlM Accumulator.add (.summing none) := rfl
  rw [outcome, started, failed]
  rfl

theorem integerSum_found_iff : (∃ v, integerSum.outcome values = .ok v) ↔ StaysWithin 0 values := by
  constructor
  · rintro ⟨v, found⟩
    by_contra outside
    cases (integerSum_outcome_of_not_within outside).symm.trans found
  · exact fun within => ⟨_, integerSum_outcome_of_within within⟩

/-- All orders of the values keep the totals within 64 bits if and only if the positive integers and
the negative ones do, each added up alone. -/
theorem staysWithin_all_iff : (∀ order, order.Perm values → StaysWithin 0 order) ↔
    Numeral.fitsInt64 (gains values) ∧ Numeral.fitsInt64 (losses values) := by
  constructor
  · intro each
    have first (p : Value → Bool) : Numeral.fitsInt64 (total (values.filter p)) := by
      have within := each _ (List.filter_append_perm p values) _ (List.prefix_append _ _)
      rwa [Int.zero_add] at within
    have part (p : Int → Bool) (zero : p 0 = false) : Numeral.fitsInt64 (Value.totalOf p values) :=
      Value.total_filter zero values ▸ first _
    exact ⟨part _ (by decide), part _ (by decide)⟩
  · rintro ⟨high, low⟩ order perm part before
    have between := Value.total_between before
    have lost : losses order = losses values := Value.totalOf_perm perm
    have gained : gains order = gains values := Value.totalOf_perm perm
    rw [Numeral.fitsInt64_iff] at high low ⊢
    omega

/-- The sum of integers is found if and only if the total of all values up to any place is within 64
bits; it is the whole total then, or NULL if there are no integers, in whatever order they come. Any
other sum fails as out of range. Some order of the values has a sum if and only if the whole total
is within 64 bits, and all orders have one if and only if the positive integers alone and the
negative ones alone add up to a number within 64 bits. -/
theorem integerSum_outcome (integers : ∀ v ∈ values, SqlType.integer.includes v) :
    (∀ order, order.Perm values →
      ((∃ v, integerSum.outcome order = .ok v) ↔
        ∀ part, part <+: order → Numeral.fitsInt64 (total part)) ∧
      (∀ v, integerSum.outcome order = .ok v →
        v = if values.all Value.isNull then .null else .int (total values)) ∧
      ∀ e, integerSum.outcome order = .error e → e = .query .integerOutOfRange) ∧
    ((∃ order, order.Perm values ∧ ∃ v, integerSum.outcome order = .ok v) ↔
      Numeral.fitsInt64 (total values)) ∧
    ((∀ order, order.Perm values → ∃ v, integerSum.outcome order = .ok v) ↔
      Numeral.fitsInt64 (gains values) ∧ Numeral.fitsInt64 (losses values)) := by
  simp only [integerSum_found_iff]
  refine ⟨fun order perm => ⟨by simp [StaysWithin], fun v found => ?_, fun e failed => ?_⟩, ?_,
    staysWithin_all_iff⟩
  · have within := integerSum_found_iff.mp ⟨v, found⟩
    rw [integerSum_outcome_of_within within, Value.total_perm perm, perm.all_eq] at found
    exact (Except.ok.inj found).symm
  · by_cases within : StaysWithin 0 order
    · cases (integerSum_outcome_of_within within).symm.trans failed
    · exact (Except.error.inj ((integerSum_outcome_of_not_within within).symm.trans failed)).symm
  · constructor
    · rintro ⟨order, perm, within⟩
      have whole := within order (List.prefix_refl order)
      rwa [Int.zero_add, Value.total_perm perm] at whole
    · intro whole
      have each : ∀ v ∈ values, Numeral.fitsInt64 (v.int?.getD 0) := by
        intro v member
        have included := integers v member
        cases v with
        | int i => exact included
        | _ => exact Numeral.fitsInt64_zero
      exact Value.exists_order values 0 each Numeral.fitsInt64_zero (by rwa [Int.zero_add])

/-- Three integers whose total is within 64 bits, the greatest one first. -/
def exampleFalling : List Value := [.int Numeral.maxInt64, .int 1, .int (-1)]

/-- The same integers, the greatest one last. -/
def exampleRising : List Value := [.int 1, .int (-1), .int Numeral.maxInt64]

/-- The total of all values is within 64 bits, but the sum is found in one order only. -/
theorem exampleFalling_out_of_range :
    (∀ v ∈ exampleFalling, SqlType.integer.includes v) ∧ exampleRising.Perm exampleFalling ∧
      Numeral.fitsInt64 (total exampleFalling) ∧
      integerSum.outcome exampleFalling = .error (.query .integerOutOfRange) ∧
      integerSum.outcome exampleRising = .ok (.int Numeral.maxInt64) := by
  have turned : (exampleRising.take 2 ++ [Value.int Numeral.maxInt64]).Perm exampleFalling :=
    List.perm_append_comm
  exact ⟨by decide, turned, by decide, rfl, rfl⟩

/-- What is known of the three integers, with NULL among them. -/
theorem exampleFalling_in_some_order :
    (∀ v ∈ .null :: exampleFalling, SqlType.integer.includes v) ∧
      (∃ order, order.Perm (.null :: exampleFalling) ∧ ∃ v, integerSum.outcome order = .ok v) ∧
      ¬∀ order, order.Perm (.null :: exampleFalling) → ∃ v, integerSum.outcome order = .ok v := by
  have integers : ∀ v ∈ .null :: exampleFalling, SqlType.integer.includes v := by decide
  obtain ⟨-, some, all⟩ := integerSum_outcome integers
  exact ⟨integers, some.mpr (by decide), fun each => absurd (all.mp each) (by decide)⟩

end AggregateCall

/-! ### Distinct values -/

namespace SqlType

variable {type : SqlType} {u v : Value} {earlier : List Value}

theorem isNull_of_same (same : type.same u v) : u.isNull = v.isNull := by
  simp only [SqlType.same, compare?, Bool.or_eq_true, Bool.and_eq_true] at same
  cases missingU : u.isNull <;> cases missingV : v.isNull <;> simp_all

theorem same_singleton : Row.same [type] [u] [v] = type.same u v := Bool.and_true _

theorem sameOn_keys (type : SqlType) : SameOn type.same type.Keys := by
  have rows := (Row.sameOn_keys [type]).comap fun v : Value => [v]
  have key : ∀ v, type.Keys v → Row.Keys [type] [v] := fun v held => .cons held .nil
  simp only [same_singleton] at rows
  exact ⟨fun v held => rows.refl v (key v held),
    fun u v heldU heldV => rows.symm u v (key u heldU) (key v heldV),
    fun u v w heldU heldV heldW => rows.trans u v w (key u heldU) (key v heldV) (key w heldW)⟩

end SqlType

namespace Accumulator

variable {func : AggregateFunc} {type : SqlType} {keys : KeyTable Unit} {u v : Value}
  {earlier : List Value}

theorem add_distinct (several : func ≠ .countRows) (type : SqlType) (keys : KeyTable Unit)
    (tally : Tally) (v : Value) :
    add ⟨func, some type, some keys, tally⟩ v =
      if takes func v then
        match keys.add? [type.canonical v] with
        | none => .ok ⟨func, some type, some keys, tally⟩
        | some keys => (tally.add (some type) v).map (⟨func, some type, some keys, ·⟩)
      else .ok ⟨func, some type, some keys, tally⟩ := by
  have others : (func == .countRows) = false := by simpa using several
  unfold add
  cases takes func v with
  | false => simp only [others]; rfl
  | true =>
      simp only [others, keyOf]
      cases keys.add? [type.canonical v] <;> rfl

theorem takes_of_same (same : type.same u v) : takes func u = takes func v := by
  rw [takes, takes, SqlType.isNull_of_same same]

/-- The table knows the values among the earlier ones that were counted: of those that the function
looks at, the ones that were equal to none before. -/
def Counted (func : AggregateFunc) (type : SqlType) (earlier : List Value) (keys : KeyTable Unit) :
    Prop :=
  keys.Holds [type] (((firsts type.same earlier).filter (takes func)).map fun v => ([v], ()))

/-- Of a value that the function looks at, the table knows whether it was there before. -/
theorem Counted.isSome_find? (counted : Counted func type earlier keys)
    (before : ∀ u ∈ earlier, type.Keys u) (key : type.Keys v) (taken : takes func v) :
    (keys.find? [type.canonical v]).isSome = earlier.any (type.same · v) := by
  have found := counted.find?_eq_some_iff (.cons key .nil : Row.Keys [type] [v])
  simp only [Row.canonical, List.zipWith_cons_cons, List.zipWith_nil_left, List.mem_map,
    List.mem_filter] at found
  rw [← (SqlType.sameOn_keys type).any_firsts before key, Bool.eq_iff_iff, List.any_eq_true,
    Option.isSome_iff_exists]
  simp only [found]
  constructor
  · rintro ⟨_, _, ⟨u, ⟨first, -⟩, rfl⟩, same, -⟩
    exact ⟨u, first, SqlType.same_singleton ▸ same⟩
  · rintro ⟨u, first, same⟩
    exact ⟨(), _, ⟨u, ⟨first, (takes_of_same same).trans taken⟩, rfl⟩,
      SqlType.same_singleton.trans same, trivial⟩

theorem Counted.skip (counted : Counted func type earlier keys) (skipped : takes func v = false) :
    Counted func type (earlier ++ [v]) keys := by
  have same : (firsts type.same (earlier ++ [v])).filter (takes func) =
      (firsts type.same earlier).filter (takes func) := by
    rw [firsts_concat]
    split
    · rfl
    · simp [skipped]
  rwa [Counted, same]

theorem Counted.repeat (counted : Counted func type earlier keys)
    (again : earlier.any (type.same · v)) : Counted func type (earlier ++ [v]) keys := by
  rwa [Counted, firsts_concat, if_pos again]

theorem Counted.insert (counted : Counted func type earlier keys) (key : type.Keys v)
    (taken : takes func v) (new : ¬earlier.any (type.same · v))
    (absent : keys.find? [type.canonical v] = none) :
    Counted func type (earlier ++ [v]) (keys.insert [type.canonical v] ()) := by
  have added := KeyTable.Holds.insert counted (.cons key .nil : Row.Keys [type] [v]) absent ()
  rw [Counted, firsts_concat, if_neg new, List.filter_append, List.map_append]
  simpa [taken] using added

/-- Over further values, an accumulator of distinct values does what one without DISTINCT does over
those that are equal to none before. -/
theorem foldlM_distinct (several : func ≠ .countRows) (values : List Value) :
    ∀ (earlier : List Value) (keys : KeyTable Unit) (tally : Tally),
      (∀ u ∈ earlier, type.Keys u) → Counted func type earlier keys →
        (∀ v ∈ values, type.Keys v) →
          (values.foldlM add ⟨func, some type, some keys, tally⟩).map Accumulator.tally =
            ((newIn type.same earlier values).foldlM add ⟨func, some type, none, tally⟩).map
              Accumulator.tally := by
  induction values with
  | nil => exact fun _ _ _ _ _ _ => rfl
  | cons v rest ih =>
      intro earlier keys tally before counted each
      obtain ⟨key, others⟩ := List.forall_mem_cons.mp each
      have known : ∀ u ∈ earlier ++ [v], type.Keys u :=
        List.forall_mem_append.mpr ⟨before, List.forall_mem_singleton.mpr key⟩
      rw [List.foldlM_cons, add_distinct several, newIn]
      cases taken : takes func v with
      | false =>
          have later := ih _ keys tally known (counted.skip taken) others
          rw [if_neg Bool.false_ne_true]
          by_cases again : earlier.any (type.same · v)
          · rw [if_pos again]
            exact later
          · rw [if_neg again, List.foldlM_cons, add_plain, taken]
            exact later
      | true =>
          have found := counted.isSome_find? before key taken
          by_cases again : earlier.any (type.same · v)
          · have missing : keys.add? [type.canonical v] = none := if_pos (found.trans again)
            rw [if_pos again, missing]
            exact ih _ keys tally known (counted.repeat again) others
          · have absent : keys.find? [type.canonical v] = none := by
              rw [Bool.not_eq_true] at again
              simpa using found.trans again
            have added : keys.add? [type.canonical v] =
                some (keys.insert [type.canonical v] ()) := by
              simp [KeyTable.add?, absent]
            rw [if_neg again, added, List.foldlM_cons, add_plain, taken]
            cases tally.add (some type) v with
            | error e => rfl
            | ok next =>
                exact ih _ _ next known (counted.insert key taken again absent) others

end Accumulator

namespace AggregateCall

theorem outcome_eq_map_tally (c : AggregateCall) (values : List Value) :
    c.outcome values = ((c.fed values).map Accumulator.tally).map (·.result c.separator) := by
  rw [outcome]
  cases c.fed values <;> rfl

/-- A call of any function but `count(*)` gives with DISTINCT what it gives, or fails as it fails,
without DISTINCT over the values that are equal to no earlier one under the type of the argument.
Here NULL is equal to NULL; only `array_agg` looks at it. The values may be any that can be keys of
the type, and those of a type without documents can. -/
theorem distinct_outcome_eq (c : AggregateCall) {type : SqlType} (argument : c.argType = some type)
    (several : c.func ≠ .countRows) :
    (∀ values : List Value, (∀ v ∈ values, type.Keys v) →
      { c with distinct := true }.outcome values =
        { c with distinct := false }.outcome (firsts type.same values)) ∧
    (type.hasTotalOrder → ∀ v, type.includes v → type.Keys v) := by
  refine ⟨fun values keys => ?_, fun total v => SqlType.keys_of_includes total v⟩
  have folded := Accumulator.foldlM_distinct several values [] (.empty [type])
    (.start c.func c.type) (by simp) (KeyTable.Holds.empty [type]) keys
  have distinct : { c with distinct := true }.fed values =
      values.foldlM Accumulator.add
        ⟨c.func, some type, some (.empty [type]), .start c.func c.type⟩ := by
    rw [fed, Accumulator.start, argument]
    rfl
  have plain : { c with distinct := false }.fed (firsts type.same values) =
      (firsts type.same values).foldlM Accumulator.add
        ⟨c.func, some type, none, .start c.func c.type⟩ := by
    rw [fed, Accumulator.start, argument]
    rfl
  rw [outcome_eq_map_tally, outcome_eq_map_tally, distinct, plain, folded]
  rfl

/-- Letters, some of which differ in case only, with NULL among them. -/
def exampleLetters : List Value := [.null, .text "B", .text "b", .null, .text "a", .text "B"]

/-- An array of the letters, and a sum whose distinct integers are out of range. -/
theorem exampleLetters_distinct :
    (∀ v ∈ exampleLetters, SqlType.citext.Keys v) ∧
      outcome ⟨.arrayAgg, some .citext, none, true, .array .citext⟩ exampleLetters =
        .ok (.array [.null, .text "B", .text "a"]) ∧
      (∀ v ∈ exampleFalling, SqlType.integer.Keys v) ∧
      { integerSum with distinct := true }.outcome exampleFalling =
        .error (.query .integerOutOfRange) := by
  have letters : ∀ v ∈ exampleLetters, SqlType.citext.Keys v := by decide
  have integers : ∀ v ∈ exampleFalling, SqlType.integer.Keys v := by decide
  have arrays := (distinct_outcome_eq ⟨.arrayAgg, some .citext, none, true, .array .citext⟩ rfl
    (by decide)).1 exampleLetters letters
  have sums := (distinct_outcome_eq integerSum rfl (by decide)).1 exampleFalling integers
  have kept : firsts SqlType.citext.same exampleLetters = [.null, .text "B", .text "a"] := by rfl
  exact ⟨letters, arrays.trans (by rw [kept]; rfl), integers, sums.trans rfl⟩

end AggregateCall

end SqlEngine
