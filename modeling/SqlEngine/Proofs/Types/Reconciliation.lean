import Mathlib.Data.List.Perm.Basic
import Mathlib.Order.Bounds.Basic
import SqlEngine.Expr.Convert
import SqlEngine.Proofs.Types.Keys
import SqlEngine.Types.Reconcile

/-!
The common type of several candidates.

Types are partially ordered by which of them gives way to which, and two types have a winner if and
only if they are comparable. So the common type is the greatest of the candidates, in whatever order
they come. Whether there is one may depend on the order where arrays over the type of NULL are among
the candidates: text gives way to every other array, but not to these, which give way to the others.
-/

namespace SqlEngine

namespace SqlType

variable {a b c d s t element : SqlType} {m n : Nat}

/-! ### The order of types -/

/-- The types that an integer turns into without being asked to. -/
def takesIntegers : SqlType → Bool
  | float | regtype | regclass => true
  | _ => false

theorem not_isText_of_takesIntegers (takes : t.takesIntegers) : ¬t.isText := by
  cases t <;> first | decide | cases takes

/-- The first type loses to the second, or is the same. -/
inductive GivesWayTo : SqlType → SqlType → Prop
  | same (t : SqlType) : GivesWayTo t t
  | null (t : SqlType) : GivesWayTo null t
  | longer {m n : Nat} : m ≤ n → GivesWayTo (text (some m)) (text (some n))
  | unbounded (limit : Option Nat) : GivesWayTo (text limit) (text none)
  | caseless (limit : Option Nat) : GivesWayTo (text limit) citext
  /-- Text loses to what it can be read as: everything but NULL and arrays over it. -/
  | read {s t : SqlType} : s.isText → t.isText = false → t.base ≠ .null → GivesWayTo s t
  | integer {t : SqlType} : t.takesIntegers → GivesWayTo integer t
  | items {a b : SqlType} : GivesWayTo a b → GivesWayTo a.array b.array

namespace GivesWayTo

/-- What arrays over NULL give way to may be anything; all others give way to their like. -/
theorem base_ne_null (below : GivesWayTo a b) (known : a.base ≠ .null) : b.base ≠ .null := by
  induction below with
  | same => exact known
  | null => exact absurd rfl known
  | longer | unbounded | caseless => simp [base]
  | integer takes =>
      rename_i t
      cases t <;> first | decide | cases takes
  | read _ _ readable => exact readable
  | items _ ih => exact ih known

theorem trans (first : GivesWayTo a b) (second : GivesWayTo b c) : GivesWayTo a c := by
  induction first generalizing c with
  | same => exact second
  | null => exact .null c
  | longer less =>
      cases second with
      | same => exact .longer less
      | longer more => exact .longer (less.trans more)
      | unbounded => exact .unbounded _
      | caseless => exact .caseless _
      | read _ noText readable => exact .read rfl noText readable
  | unbounded limit =>
      cases second with
      | same => exact .unbounded limit
      | unbounded => exact .unbounded limit
      | caseless => exact .caseless limit
      | read _ noText readable => exact .read rfl noText readable
  | caseless limit =>
      cases second with
      | same => exact .caseless limit
      | read _ noText readable => exact .read rfl noText readable
  | read isText noText readable =>
      have stays := second.base_ne_null readable
      cases second with
      | same => exact .read isText noText stays
      | null => exact absurd rfl readable
      | integer takes =>
          exact .read isText (Bool.eq_false_iff.mpr (not_isText_of_takesIntegers takes)) stays
      | items => exact .read isText rfl stays
      | longer | unbounded | caseless => cases noText
      | read other =>
          rw [noText] at other
          cases other
  | integer takes =>
      cases second with
      | same => exact .integer takes
      | read isText => exact absurd isText (not_isText_of_takesIntegers takes)
      | _ => cases takes
  | items _ ih =>
      cases second with
      | same => exact .items (ih (.same _))
      | items later => exact .items (ih later)
      | read impossible => cases impossible

theorem antisymm (first : GivesWayTo a b) (second : GivesWayTo b a) : a = b := by
  induction first with
  | same => rfl
  | null t =>
      cases second with
      | same | null => rfl
      | read _ _ impossible => exact absurd rfl impossible
      | integer impossible => cases impossible
  | longer less =>
      cases second with
      | same => rfl
      | longer more => rw [Nat.le_antisymm less more]
      | read _ impossible => cases impossible
  | unbounded limit =>
      cases second with
      | same | unbounded => rfl
      | read _ impossible => cases impossible
  | caseless limit =>
      cases second with
      | read _ impossible => cases impossible
  | read isText noText readable =>
      cases second with
      | same => rfl
      | null => exact absurd rfl readable
      | longer | unbounded | caseless => cases noText
      | read other =>
          rw [noText] at other
          cases other
      | integer takes => exact absurd isText (not_isText_of_takesIntegers takes)
      | items => cases isText
  | integer takes =>
      cases second with
      | same => rfl
      | read isText => exact absurd isText (not_isText_of_takesIntegers takes)
      | _ => cases takes
  | items _ ih =>
      cases second with
      | same => rfl
      | items later => rw [ih later]
      | read impossible => cases impossible

end GivesWayTo

instance : PartialOrder SqlType where
  le := GivesWayTo
  le_refl := .same
  le_trans _ _ _ := GivesWayTo.trans
  le_antisymm _ _ := GivesWayTo.antisymm

/-! ### What text can be read as -/

/-- There is a way from text to every type but NULL and the arrays over it. -/
theorem readable_iff (t : SqlType) :
    (Conversion.implicit? (text none) t).isSome ∨ (Conversion.fromText? t).isSome ↔
      t.base ≠ .null := by
  induction t with
  | array element ih =>
      simp only [Conversion.implicit?, Option.isSome_none, Bool.false_eq_true, false_or,
        Conversion.fromText?, Bool.or_eq_true, ih, base]
      by_cases readable : element.base ≠ .null <;> simp [readable]
  | _ => simp [Conversion.implicit?, Conversion.fromText?, base]

theorem castsTo_iff_of_isText (isText : s.isText) : s.castsTo t ↔ t.base ≠ .null := by
  rw [← readable_iff, castsTo, Conversion.plan?]
  by_cases same : s = t
  · subst same
    cases s with
    | text limit => simp [Conversion.implicit?]
    | citext => simp [Conversion.implicit?]
    | _ => cases isText
  · cases s with
    | text limit => cases t <;> simp [same, isNull, Conversion.implicit?, Conversion.explicit?]
    | citext => cases t <;> simp_all [isNull, Conversion.implicit?, Conversion.explicit?]
    | _ => cases isText

/-! ### Winners -/

theorem preferText_of_le (isText : a.isText) (other : b.isText) (below : a ≤ b) :
    preferText a b = b ∧ preferText b a = b := by
  cases below with
  | same =>
      cases a with
      | text limit => cases limit <;> simp [preferText, textLimit?]
      | citext => simp [preferText]
      | _ => cases isText
  | longer less =>
      rcases less.eq_or_lt with rfl | more
      · simp [preferText, textLimit?]
      · simp [preferText, textLimit?, less, Nat.not_le.mpr more]
  | unbounded limit => cases limit <;> simp [preferText, textLimit?]
  | caseless limit => simp [preferText]
  | read _ noText =>
      rw [noText] at other
      cases other
  | null | integer | items => cases isText

theorem prefer?_eq (a b : SqlType) : a.prefer? b =
    if a = b then some a
    else if a.isNull then some b
    else if b.isNull then some a
    else if a.isNumeric && b.isNumeric then some .float
    else if a.isText && b.isText then some (preferText a b)
    else if a.isText && a.castsTo b then some b
    else if b.isText && b.castsTo a then some a
    else match a, b with
      | .array x, .array y => (x.prefer? y).map .array
      | a, b =>
        if a.convertsTo b then some b
        else if b.convertsTo a then some a
        else none :=
  prefer?.eq_def a b

theorem prefer?_self (a : SqlType) : a.prefer? a = some a := by
  rw [prefer?_eq, if_pos rfl]

theorem not_isNull_of_isText (isText : s.isText) : s.isNull = false := by
  cases s <;> first | rfl | cases isText

theorem not_isNumeric_of_isText (isText : s.isText) : s.isNumeric = false := by
  cases s <;> first | rfl | cases isText

theorem prefer?_of_isText (isText : a.isText) (other : b.isText) :
    a.prefer? b = some (preferText a b) := by
  by_cases equal : a = b
  · subst equal
    rw [prefer?_self, (preferText_of_le isText other le_rfl).1]
  · simp only [prefer?_eq a b, equal, ↓reduceIte, not_isNull_of_isText, not_isNumeric_of_isText,
      isText, other, Bool.false_eq_true, Bool.and_self]

theorem prefer?_of_texts_le (isText : a.isText) (other : b.isText) (below : a ≤ b) :
    a.prefer? b = some b ∧ b.prefer? a = some b := by
  obtain ⟨first, second⟩ := preferText_of_le isText other below
  rw [prefer?_of_isText isText other, prefer?_of_isText other isText, first, second]
  exact ⟨rfl, rfl⟩

theorem prefer?_of_read (isText : s.isText) (noText : t.isText = false)
    (readable : t.base ≠ .null) : s.prefer? t = some t ∧ t.prefer? s = some t := by
  have different : s ≠ t := by
    rintro rfl
    rw [isText] at noText
    cases noText
  have present : t.isNull = false := by
    cases t <;> first | rfl | exact absurd rfl readable
  have casts := (castsTo_iff_of_isText isText).mpr readable
  constructor
  all_goals
    rw [prefer?_eq]
    simp only [different, different.symm, ↓reduceIte, not_isNull_of_isText, not_isNumeric_of_isText,
      isText, noText, present, casts, Bool.false_eq_true, Bool.and_self, Bool.and_false,
      Bool.false_and]

theorem prefer?_items (x y : SqlType) : x.array.prefer? y.array = (x.prefer? y).map array := by
  by_cases equal : x = y
  · rw [equal, prefer?_self, prefer?_self, Option.map_some]
  · rw [prefer?_eq x.array]
    simp only [array.injEq, equal, ↓reduceIte, isNull, isNumeric, isText, Bool.false_eq_true,
      Bool.and_self, Bool.false_and]

/-- Of two types of which one gives way to the other, the other is the winner. -/
theorem prefer?_of_le (below : a ≤ b) : a.prefer? b = some b ∧ b.prefer? a = some b := by
  induction below with
  | same t => exact ⟨prefer?_self t, prefer?_self t⟩
  | null t =>
      by_cases missing : t = .null
      · subst missing
        exact ⟨prefer?_self _, prefer?_self _⟩
      · constructor <;> (rw [prefer?_eq]; simp [missing, Ne.symm missing, isNull])
  | longer less => exact prefer?_of_texts_le rfl rfl (.longer less)
  | unbounded limit => exact prefer?_of_texts_le rfl rfl (.unbounded limit)
  | caseless limit => exact prefer?_of_texts_le rfl rfl (.caseless limit)
  | read isText noText readable => exact prefer?_of_read isText noText readable
  | integer takes =>
      rename_i t
      cases t <;> first | decide | cases takes
  | items _ ih => simp only [prefer?_items, ih, Option.map_some, and_self]

theorem texts_total (isText : a.isText) (other : b.isText) : a ≤ b ∨ b ≤ a := by
  have bounds : ∀ m n : Option Nat, text m ≤ text n ∨ text n ≤ text m
    | _, none => .inl (.unbounded _)
    | none, _ => .inr (.unbounded _)
    | some m, some n => (Nat.le_total m n).imp .longer .longer
  cases a with
  | text m =>
      cases b with
      | text n => exact bounds m n
      | citext => exact .inl (.caseless m)
      | _ => cases other
  | citext =>
      cases b with
      | text n => exact .inr (.caseless n)
      | citext => exact .inl le_rfl
      | _ => cases other
  | _ => cases isText

theorem numbers_total (isNumeric : a.isNumeric) (other : b.isNumeric) : a ≤ b ∨ b ≤ a := by
  cases a with
  | integer =>
      cases b with
      | integer => exact .inl le_rfl
      | float => exact .inl (.integer rfl)
      | _ => cases other
  | float =>
      cases b with
      | integer => exact .inr (.integer rfl)
      | float => exact .inl le_rfl
      | _ => cases other
  | _ => cases isNumeric

theorem castsTo_of_convertsTo (converts : a.convertsTo b) : a.castsTo b := by
  rw [convertsTo, Conversion.plan?] at converts
  rw [castsTo, Conversion.plan?]
  split at converts
  · rw [if_pos ‹_›]
    rfl
  · rw [if_neg ‹_›]
    obtain ⟨conversion, planned⟩ : ∃ c, Conversion.implicit? a b = some c := by
      simpa [Option.isSome_iff_exists] using converts
    simp [planned]

/-- What becomes something else without being asked to, where neither type reads the other. -/
theorem le_of_convertsTo (different : a ≠ b) (present : a.isNull = false)
    (numbers : ¬(a.isNumeric && b.isNumeric)) (unreadB : ¬(a.isText && a.castsTo b))
    (unreadA : ¬(b.isText && b.castsTo a)) (apart : ∀ x y, a = array x → b ≠ array y)
    (converts : a.convertsTo b) : a ≤ b := by
  have noText : ¬a.isText := fun isText =>
    unreadB ((Bool.and_eq_true _ _).mpr ⟨isText, castsTo_of_convertsTo converts⟩)
  rw [convertsTo, Conversion.plan?] at converts
  simp only [different, present, decide_false, Bool.or_self, Bool.false_eq_true, ↓reduceIte,
    Option.orElse_eq_orElse, Option.orElse_eq_or, Option.or_none] at converts
  obtain ⟨conversion, planned⟩ := Option.isSome_iff_exists.mp converts
  unfold Conversion.implicit? at planned
  split at planned
  any_goals exact absurd rfl noText
  any_goals exact absurd rfl numbers
  · exact absurd ((Bool.and_eq_true _ _).mpr
      ⟨rfl, (castsTo_iff_of_isText rfl).mpr SqlType.noConfusion⟩) unreadA
  · exact .integer rfl
  · exact .integer rfl
  · exact absurd rfl (apart _ _ rfl)
  · cases planned

theorem comparable_of_prefer?_apart (apart : ∀ x y, a = array x → b ≠ array y)
    (won : a.prefer? b = some c) : a ≤ b ∨ b ≤ a := by
  rw [prefer?_eq] at won
  split_ifs at won with equal missingA missingB numbers texts readB readA
  · exact .inl (le_of_eq equal)
  · cases a with
    | null => exact .inl (.null b)
    | _ => cases missingA
  · cases b with
    | null => exact .inr (.null a)
    | _ => cases missingB
  · obtain ⟨first, second⟩ := (Bool.and_eq_true _ _).mp numbers
    exact numbers_total first second
  · obtain ⟨first, second⟩ := (Bool.and_eq_true _ _).mp texts
    exact texts_total first second
  · obtain ⟨isText, casts⟩ := (Bool.and_eq_true _ _).mp readB
    have noText : b.isText = false := by simpa [isText] using texts
    exact .inl (.read isText noText ((castsTo_iff_of_isText isText).mp casts))
  · obtain ⟨isText, casts⟩ := (Bool.and_eq_true _ _).mp readA
    have noText : a.isText = false := by simpa [isText] using texts
    exact .inr (.read isText noText ((castsTo_iff_of_isText isText).mp casts))
  · split at won
    · exact absurd rfl (apart _ _ rfl)
    · have presentA : a.isNull = false := Bool.eq_false_iff.mpr missingA
      have presentB : b.isNull = false := Bool.eq_false_iff.mpr missingB
      split_ifs at won with forth back
      · exact .inl (le_of_convertsTo equal presentA numbers readB readA apart forth)
      · rw [Bool.and_comm] at numbers
        exact .inr (le_of_convertsTo (Ne.symm equal) presentB numbers readA readB
          (fun x y first second => apart y x second first) back)

/-- Types that have a winner can be compared. -/
theorem comparable_of_prefer? (won : a.prefer? b = some c) : a ≤ b ∨ b ≤ a := by
  induction a generalizing b c with
  | array x ih =>
      cases b with
      | array y =>
          rw [prefer?_items] at won
          obtain ⟨winner, inside, -⟩ := Option.map_eq_some_iff.mp won
          exact (ih inside).imp .items .items
      | _ => exact comparable_of_prefer?_apart (fun _ _ _ impossible => by cases impossible) won
  | _ => exact comparable_of_prefer?_apart (fun _ _ impossible => by cases impossible) won

/-- The winner of two types is the greater one. -/
theorem prefer?_eq_some_iff : a.prefer? b = some c ↔ (a ≤ b ∧ c = b) ∨ (b ≤ a ∧ c = a) := by
  constructor
  · intro won
    refine (comparable_of_prefer? won).imp (fun below => ⟨below, ?_⟩) fun above => ⟨above, ?_⟩
    · exact Option.some.inj (won.symm.trans (prefer?_of_le below).1)
    · exact Option.some.inj (won.symm.trans (prefer?_of_le above).2)
  · rintro (⟨below, rfl⟩ | ⟨above, rfl⟩)
    · exact (prefer?_of_le below).1
    · exact (prefer?_of_le above).2

/-! ### Where every two types below a third can be compared -/

/-- An array over NULL, of any number of dimensions. -/
def OverNull (t : SqlType) : Prop := t ≠ null ∧ t.base = .null

instance (t : SqlType) : Decidable t.OverNull :=
  inferInstanceAs (Decidable (t ≠ .null ∧ t.base = .null))

theorem not_overNull_element (proper : ¬element.array.OverNull) : ¬element.OverNull :=
  fun nulls => proper ⟨SqlType.noConfusion, nulls.2⟩

theorem comparable_of_isText (isText : a.isText) (proper : ¬b.OverNull) : a ≤ b ∨ b ≤ a := by
  cases other : b.isText with
  | true => exact texts_total isText other
  | false =>
      by_cases missing : b = .null
      · exact .inr (missing ▸ .null a)
      · exact .inl (.read isText other fun nulls => proper ⟨missing, nulls⟩)

theorem comparable_of_le (properA : ¬a.OverNull) (properB : ¬b.OverNull) (first : a ≤ d)
    (second : b ≤ d) : a ≤ b ∨ b ≤ a := by
  induction first generalizing b with
  | same => exact .inr second
  | null => exact .inl (.null b)
  | longer | unbounded | caseless => exact comparable_of_isText rfl properB
  | read isText => exact comparable_of_isText isText properB
  | integer takes =>
      cases second with
      | same => exact .inl (.integer takes)
      | null => exact .inr (.null _)
      | integer => exact .inl le_rfl
      | read isText => exact (comparable_of_isText isText properA).symm
      | _ => cases takes
  | items first ih =>
      cases second with
      | same => exact .inl (.items first)
      | null => exact .inr (.null _)
      | read isText => exact (comparable_of_isText isText properA).symm
      | integer impossible => cases impossible
      | items second =>
          exact (ih (not_overNull_element properA) (not_overNull_element properB) second).imp
            .items .items

end SqlType

/-! ### Candidates -/

namespace Candidate

open SqlType (OverNull)

variable {candidates others : List Candidate} {winner greatest : SqlType} {c : Candidate}

/-- The types of candidates. -/
def types (candidates : List Candidate) : Set SqlType := {t | ∃ c ∈ candidates, c.type = t}

theorem types_perm (perm : candidates.Perm others) : types candidates = types others := by
  ext t
  simp only [types, perm.mem_iff]

theorem types_nil : types [] = ∅ := by simp [types]

theorem types_cons : types (c :: candidates) = insert c.type (types candidates) := by
  ext t
  simp [types, eq_comm]

/-- A fold ends with the greatest of all types. -/
theorem fold_greatest (folded : fold winner candidates = .ok greatest) :
    IsGreatest (insert winner (types candidates)) greatest := by
  induction candidates generalizing winner with
  | nil =>
      cases folded
      rw [types_nil, insert_empty_eq]
      exact isGreatest_singleton
  | cons c rest ih =>
      rw [fold] at folded
      split at folded
      · rename_i next won
        obtain ⟨among, bound⟩ := ih folded
        have reached : next ≤ greatest := bound (.inl rfl)
        rw [types_cons]
        -- the winner of the two is one of them and above both
        obtain ⟨one, below, beside⟩ :
            next ∈ ({winner, c.type} : Set SqlType) ∧ winner ≤ next ∧ c.type ≤ next := by
          obtain ⟨less, rfl⟩ | ⟨less, rfl⟩ := SqlType.prefer?_eq_some_iff.mp won
          · exact ⟨.inr rfl, less, le_rfl⟩
          · exact ⟨.inl rfl, le_rfl, less⟩
        constructor
        · rcases among with rfl | among
          · exact one.imp id .inl
          · exact .inr (.inr among)
        · rintro t (rfl | rfl | inside)
          · exact below.trans reached
          · exact beside.trans reached
          · exact bound (.inr inside)
      · cases folded

/-- If no candidate is an array over NULL, and there is a type above all of them, there is a
greatest one. -/
theorem fold_succeeds (proper : ¬winner.OverNull) (each : ∀ c ∈ candidates, ¬c.type.OverNull)
    {bound : SqlType} (below : winner ≤ bound) (all : ∀ c ∈ candidates, c.type ≤ bound) :
    ∃ greatest, fold winner candidates = .ok greatest := by
  induction candidates generalizing winner with
  | nil => exact ⟨winner, rfl⟩
  | cons c rest ih =>
      obtain ⟨properC, others⟩ := List.forall_mem_cons.mp each
      obtain ⟨beside, later⟩ := List.forall_mem_cons.mp all
      rw [fold]
      rcases SqlType.comparable_of_le proper properC below beside with less | less
      · rw [(SqlType.prefer?_of_le less).1]
        exact ih properC others beside later
      · rw [(SqlType.prefer?_of_le less).2]
        exact ih proper others below later

theorem fold_agree (perm : candidates.Perm others) {one other : SqlType}
    (first : fold winner candidates = .ok one) (second : fold winner others = .ok other) :
    one = other := by
  have greatest := fold_greatest second
  rw [← types_perm perm] at greatest
  exact (fold_greatest first).unique greatest

theorem fold_perm (perm : candidates.Perm others) (proper : ¬winner.OverNull)
    (each : ∀ c ∈ candidates, ¬c.type.OverNull) (folded : fold winner candidates = .ok greatest) :
    fold winner others = .ok greatest := by
  obtain ⟨-, bound⟩ := fold_greatest folded
  have above : ∀ c ∈ others, c.type ≤ greatest := fun c member =>
    bound (.inr ⟨c, perm.mem_iff.mpr member, rfl⟩)
  obtain ⟨other, again⟩ := fold_succeeds proper
    (fun c member => each c (perm.mem_iff.mpr member)) (bound (.inl rfl)) above
  rw [fold_agree perm folded again, again]

theorem fold_of_same (same : ∀ c ∈ candidates, c.type = winner) :
    fold winner candidates = .ok winner := by
  induction candidates with
  | nil => rfl
  | cons c rest ih =>
      obtain ⟨first, others⟩ := List.forall_mem_cons.mp same
      rw [fold, first, SqlType.prefer?_self]
      exact ih others

/-! ### Reconciliation -/

/-- The candidates that count. -/
def typed (candidates : List Candidate) : List Candidate := candidates.filter (!·.type.isNull)

theorem misfit?_of_same (same : ∀ c ∈ candidates, c.type = winner) :
    misfit? winner candidates = none := by
  refine List.find?_eq_none.mpr fun c member => ?_
  simp [same c member, SqlType.convertsTo, Conversion.plan?]

theorem misfit?_perm (perm : candidates.Perm others) :
    misfit? winner candidates = none ↔ misfit? winner others = none := by
  simp only [misfit?, List.find?_eq_none, perm.mem_iff]

/-- The common type is what the candidates that count are folded to, if it fits them. -/
theorem reconcile_ok_iff {noneIfMisfit : Bool} {common : Option SqlType} :
    reconcile candidates noneIfMisfit = .ok common ↔
      (typed candidates = [] ∧ some (.text none) = common) ∨
        (typed candidates ≠ [] ∧ ∃ winner, fold .null (typed candidates) = .ok winner ∧
          ((misfit? winner (typed candidates) = none ∧ some winner = common) ∨
            (misfit? winner (typed candidates) ≠ none ∧ noneIfMisfit ∧ none = common))) := by
  rw [reconcile, ← typed]
  cases typed candidates with
  | nil => simp
  | cons first rest =>
      by_cases equal : rest.all (·.type = first.type)
      · have same : ∀ c ∈ rest, c.type = first.type := by simpa using equal
        have folded : fold .null (first :: rest) = .ok first.type := by
          rw [fold, (SqlType.prefer?_of_le (.null first.type)).1]
          exact fold_of_same same
        have fitting : misfit? first.type (first :: rest) = none :=
          misfit?_of_same (List.forall_mem_cons.mpr ⟨rfl, same⟩)
        simp [equal, folded, fitting]
      · simp only [if_neg equal]
        cases fold .null (first :: rest) with
        | error e => simp [bind, Except.bind]
        | ok winner =>
            cases found : misfit? winner (first :: rest) with
            | none => simp [bind, Except.bind, found, pure, Except.pure]
            | some c =>
                cases noneIfMisfit <;>
                  simp [bind, Except.bind, found, pure, Except.pure, throw, throwThe,
                    MonadExceptOf.throw]

theorem typed_perm (perm : candidates.Perm others) : (typed candidates).Perm (typed others) :=
  perm.filter _

/-- The order of the candidates does not matter to their common type, if there is one. -/
theorem reconcile_agree {noneIfMisfit : Bool} {one other : Option SqlType}
    (perm : candidates.Perm others) (first : reconcile candidates noneIfMisfit = .ok one)
    (second : reconcile others noneIfMisfit = .ok other) : one = other := by
  have counted := typed_perm perm
  obtain ⟨empty, rfl⟩ | ⟨present, winner, folded, result⟩ := reconcile_ok_iff.mp first
  all_goals
    obtain ⟨empty', rfl⟩ | ⟨present', winner', folded', result'⟩ := reconcile_ok_iff.mp second
  · rfl
  · rw [empty] at counted
    exact absurd counted.nil_eq.symm present'
  · rw [empty'] at counted
    exact absurd counted.eq_nil present
  · obtain rfl := fold_agree counted folded folded'
    have alike : misfit? winner (typed candidates) = none ↔ misfit? winner (typed others) = none :=
      misfit?_perm counted
    obtain ⟨fits, rfl⟩ | ⟨misfits, -, rfl⟩ := result
    all_goals obtain ⟨fits', rfl⟩ | ⟨misfits', -, rfl⟩ := result'
    · rfl
    · exact absurd (alike.mp fits) misfits'
    · exact absurd (alike.mpr fits') misfits
    · rfl

theorem reconcile_ok_of_perm {noneIfMisfit : Bool} {common : Option SqlType}
    (perm : candidates.Perm others) (proper : ∀ c ∈ candidates, ¬c.type.OverNull)
    (given : reconcile candidates noneIfMisfit = .ok common) :
    reconcile others noneIfMisfit = .ok common := by
  have counted := typed_perm perm
  obtain ⟨empty, result⟩ | ⟨present, winner, folded, result⟩ := reconcile_ok_iff.mp given
  · rw [empty] at counted
    exact reconcile_ok_iff.mpr (.inl ⟨counted.nil_eq.symm, result⟩)
  · refine reconcile_ok_iff.mpr (.inr ⟨?_, winner, ?_, ?_⟩)
    · intro empty
      rw [empty] at counted
      exact present counted.eq_nil
    · refine fold_perm counted (by decide) (fun c member => ?_) folded
      exact proper c (List.mem_of_mem_filter member)
    · simpa only [ne_eq, misfit?_perm counted] using result

/-- Without arrays over NULL, the order of the candidates does not matter at all: all orders lead to
the same type, or none does. -/
theorem reconcile_perm (perm : candidates.Perm others) (proper : ∀ c ∈ candidates, ¬c.type.OverNull)
    (noneIfMisfit : Bool) (common : Option SqlType) :
    reconcile candidates noneIfMisfit = .ok common ↔
      reconcile others noneIfMisfit = .ok common :=
  ⟨reconcile_ok_of_perm perm proper, reconcile_ok_of_perm perm.symm fun c member =>
    proper c (perm.mem_iff.mpr member)⟩

/-- Text that comes before an array over NULL has no winner with it. -/
example :
    let literal : Candidate := ⟨.text none, true⟩
    let nulls : Candidate := ⟨.array .null, false⟩
    let numbers : Candidate := ⟨.array .integer, false⟩
    (reconcile [nulls, numbers, literal] false).toOption = some (some (.array .integer)) ∧
      (reconcile [literal, nulls, numbers] false).toOption = none := by
  decide

end Candidate

/-! ### Conversions to the common type

Of two types the greater one wins, in whatever order they come. The common type is above all
candidates, and what gives way to a type can be cast to it. So every candidate can be cast to the
common type, and those that are no literals convert to it by themselves. If expressions cannot be
turned into ones of their common type, the value of a constant is at fault. -/

namespace SqlType

variable {a b : SqlType}

theorem castsTo_of_isNull (missing : a.isNull) : a.castsTo b ∧ a.convertsTo b := by
  simp [castsTo, convertsTo, Conversion.plan?, missing]

/-- Arrays are cast item by item. -/
theorem explicit?_items (a b : SqlType) :
    Conversion.explicit? a.array b.array = (Conversion.plan? a b true).map .overItems := by
  simp only [Conversion.explicit?, Conversion.plan?, ↓reduceIte]

theorem castsTo_items (casts : a.castsTo b) : a.array.castsTo b.array := by
  have items : (Conversion.explicit? a.array b.array).isSome := by
    rw [explicit?_items, Option.isSome_map]
    exact casts
  rw [castsTo, Conversion.plan?]
  split
  · rfl
  · simp [items]

/-- What gives way to a type can be cast to it. -/
theorem castsTo_of_le (below : a ≤ b) : a.castsTo b := by
  induction below with
  | same t => simp [castsTo, Conversion.plan?]
  | null t => exact (castsTo_of_isNull rfl).1
  | longer | unbounded | caseless =>
      exact (castsTo_iff_of_isText rfl).mpr SqlType.noConfusion
  | read isText _ readable => exact (castsTo_iff_of_isText isText).mpr readable
  | integer takes =>
      rename_i t
      cases t <;> first | rfl | cases takes
  | items _ ih => exact castsTo_items ih

theorem prefer?_comm (a b : SqlType) : a.prefer? b = b.prefer? a := by
  apply Option.ext
  intro c
  rw [prefer?_eq_some_iff, prefer?_eq_some_iff, or_comm]

theorem isGreatest_pair_iff (a b c : SqlType) :
    IsGreatest {a, b} c ↔ (a ≤ b ∧ c = b) ∨ (b ≤ a ∧ c = a) := by
  constructor
  · rintro ⟨rfl | rfl, above⟩
    · exact .inr ⟨above (.inr rfl), rfl⟩
    · exact .inl ⟨above (.inl rfl), rfl⟩
  · rintro (⟨below, rfl⟩ | ⟨below, rfl⟩)
    · refine ⟨.inr rfl, ?_⟩
      rintro t (rfl | rfl)
      · exact below
      · exact le_rfl
    · refine ⟨.inl rfl, ?_⟩
      rintro t (rfl | rfl)
      · exact le_rfl
      · exact below

/-- It does not matter which of two types comes first, and their winner is the greater one, to which
both can be cast. -/
theorem prefer?_greatest (a b : SqlType) :
    a.prefer? b = b.prefer? a ∧
      ∀ c, a.prefer? b = some c ↔ IsGreatest {a, b} c ∧
        (Conversion.plan? a c true).isSome ∧ (Conversion.plan? b c true).isSome := by
  refine ⟨prefer?_comm a b, fun c => ?_⟩
  rw [prefer?_eq_some_iff, ← isGreatest_pair_iff]
  constructor
  · intro greatest
    have first : a ≤ c := greatest.2 (.inl rfl)
    have second : b ≤ c := greatest.2 (.inr rfl)
    exact ⟨greatest, castsTo_of_le first, castsTo_of_le second⟩
  · rintro ⟨greatest, -, -⟩
    exact greatest

end SqlType

namespace Expr

variable {registry : Registry} {es : List Expr} {e : Expr} {t : SqlType}

/-- Where there is a conversion for an expression, nothing but the value of a constant can be in the
way. -/
theorem coerce_of_castsTo (casts : e.type.castsTo t)
    (converts : e.isConstant = false → e.type.convertsTo t) :
    (∃ converted, e.coerce registry t = .ok converted) ∨
      ∃ v s plan x, e = .constant v s ∧ Conversion.plan? s t true = some plan ∧
        plan.apply registry v = .error x ∧ e.coerce registry t = .error x := by
  by_cases same : e.type = t
  · refine .inl ⟨e, ?_⟩
    rw [coerce, convert, if_pos same]
  · rw [coerce, convert, if_neg same]
    cases e with
    | constant v s =>
        obtain ⟨plan, planned⟩ := Option.isSome_iff_exists.mp casts
        have found : Conversion.plan? (constant v s).type t (constant v s).isConstant = some plan :=
          planned
        rw [found]
        cases applied : plan.apply registry v with
        | ok w => exact .inl ⟨constant w t, by simp [applied, bind, Except.bind, pure, Except.pure]⟩
        | error x =>
            exact .inr ⟨v, s, plan, x, rfl, planned, applied, by simp [applied, bind, Except.bind]⟩
    | _ =>
        obtain ⟨plan, planned⟩ := Option.isSome_iff_exists.mp (converts rfl)
        exact .inl ⟨_, by simp only [isConstant, planned]; rfl⟩

/-- The expressions can be turned into ones of a type, or one of them is in the way. -/
theorem mapM_coerce (es : List Expr) :
    (∃ converted, es.mapM (coerce registry t) = .ok converted) ∨
      ∃ e ∈ es, ∃ x, e.coerce registry t = .error x ∧ es.mapM (coerce registry t) = .error x := by
  induction es with
  | nil => exact .inl ⟨[], rfl⟩
  | cons e rest ih =>
      rw [List.mapM_cons]
      cases first : e.coerce registry t with
      | error x => exact .inr ⟨e, by simp, x, first, rfl⟩
      | ok built =>
          rcases ih with ⟨converted, all⟩ | ⟨other, member, x, failed, stopped⟩
          · exact .inl ⟨built :: converted, by rw [all]; rfl⟩
          · exact .inr ⟨other, by simp [member], x, failed, by rw [stopped]; rfl⟩

end Expr

namespace Candidate

variable {candidates : List Candidate} {c : Candidate} {t : SqlType}

theorem le_of_reconcile {noneIfMisfit : Bool}
    (given : reconcile candidates noneIfMisfit = .ok (some t)) (member : c ∈ candidates)
    (present : c.type.isNull = false) : c.type ≤ t ∧ (c.isLiteral = false → c.type.convertsTo t) := by
  have counts : c ∈ typed candidates := List.mem_filter.mpr ⟨member, by rw [present]; rfl⟩
  rcases reconcile_ok_iff.mp given with ⟨empty, -⟩ | ⟨-, winner, folded, result⟩
  · rw [empty] at counts
    cases counts
  · obtain ⟨fitting, same⟩ | ⟨-, -, absent⟩ := result
    · cases same
      refine ⟨(fold_greatest folded).2 (.inr ⟨c, counts, rfl⟩), fun ordinary => ?_⟩
      have fits := List.find?_eq_none.mp fitting c counts
      simpa [ordinary] using fits
    · cases absent

/-- Candidates of the NULL type do not count, and fit any type. -/
theorem castsTo_of_reconcile {noneIfMisfit : Bool}
    (given : reconcile candidates noneIfMisfit = .ok (some t)) (member : c ∈ candidates) :
    c.type.castsTo t ∧ (c.isLiteral = false → c.type.convertsTo t) := by
  cases missing : c.type.isNull with
  | true =>
      obtain ⟨casts, converts⟩ := SqlType.castsTo_of_isNull (b := t) missing
      exact ⟨casts, fun _ => converts⟩
  | false =>
      obtain ⟨below, converts⟩ := le_of_reconcile given member missing
      exact ⟨SqlType.castsTo_of_le below, converts⟩

/-- All candidates can be cast to their common type, and those that are no literals convert to it by
themselves. So expressions with such candidates become ones of this type, unless the value of a
constant has no counterpart there. -/
theorem reconcile_convertible (given : reconcile candidates false = .ok (some t)) :
    (∀ c ∈ candidates, (∃ plan, Conversion.plan? c.type t true = some plan) ∧
      (c.isLiteral = false → ∃ plan, Conversion.plan? c.type t false = some plan)) ∧
    ∀ (registry : Registry) (es : List Expr), es.map Expr.candidate = candidates →
      (∃ converted, Expr.unify registry es = .ok (t, converted)) ∨
        ∃ v s plan x, Expr.constant v s ∈ es ∧ Conversion.plan? s t true = some plan ∧
          plan.apply registry v = .error x ∧ Expr.unify registry es = .error x := by
  constructor
  · intro c member
    obtain ⟨casts, converts⟩ := castsTo_of_reconcile given member
    exact ⟨Option.isSome_iff_exists.mp casts, fun ordinary =>
      Option.isSome_iff_exists.mp (converts ordinary)⟩
  · rintro registry es rfl
    have common : Expr.commonType (es.map Expr.candidate) = .ok t := by
      rw [Expr.commonType, given]
      rfl
    have unified : Expr.unify registry es = (es.mapM (Expr.coerce registry t)).map (t, ·) := by
      rw [Expr.unify, common]
      show (es.mapM (Expr.coerce registry t) >>= fun converted => pure (t, converted)) = _
      cases es.mapM (Expr.coerce registry t) <;> rfl
    rw [unified]
    rcases Expr.mapM_coerce es with ⟨converted, all⟩ | ⟨e, member, x, failed, stopped⟩
    · exact .inl ⟨converted, by rw [all]; rfl⟩
    · obtain ⟨casts, converts⟩ := castsTo_of_reconcile given (List.mem_map_of_mem member)
      rcases Expr.coerce_of_castsTo casts converts with
        ⟨converted, done⟩ | ⟨v, s, plan, y, rfl, planned, applied, error⟩
      · rw [done] at failed
        cases failed
      · cases error.symm.trans failed
        exact .inr ⟨v, s, plan, x, member, planned, applied, by rw [stopped]; rfl⟩

/-- An array over NULL, an array of integers and a literal. -/
def exampleBranches : List Candidate :=
  [⟨.array .null, false⟩, ⟨.array .integer, false⟩, ⟨.text none, true⟩]

theorem exampleBranches_convertible :
    reconcile exampleBranches false = .ok (some (.array .integer)) ∧
      ∀ c ∈ exampleBranches, ∃ plan, Conversion.plan? c.type (.array .integer) true = some plan := by
  have given : reconcile exampleBranches false = .ok (some (.array .integer)) := by rfl
  exact ⟨given, fun c member => ((reconcile_convertible given).1 c member).1⟩

end Candidate

end SqlEngine
