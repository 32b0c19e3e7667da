import SqlEngine.Number.Reading
import SqlEngine.Text.Blank

/-!
Numbers read back from the text they are written in: integers from their decimal digits, and digits
of base sixteen. Neither has blanks, so trimming such a text does nothing.
-/

namespace SqlEngine

namespace Text

variable {cs : List Char} {c : Char}

theorem dropBlanks_cons (dark : isBlank c = false) : dropBlanks (c :: cs) = c :: cs := by
  rw [dropBlanks, List.dropWhile_cons_of_neg (by simp [dark])]

/-- A text without blanks at its ends is trimmed already. -/
theorem trim_eq_self {first last : Char} {front rest : List Char} (starts : cs = first :: rest)
    (ends : cs = front ++ [last]) (dark : isBlank first = false) (dark' : isBlank last = false) :
    trim cs = cs := by
  have kept : dropBlanks cs = cs := by rw [starts, dropBlanks_cons dark]
  have kept' : dropBlanks cs.reverse = cs.reverse := by
    rw [ends, List.reverse_append, List.reverse_singleton, List.singleton_append,
      dropBlanks_cons dark']
  rw [trim, kept, dropEndBlanks, kept', List.reverse_reverse]

theorem trim_of_dark (dark : ∀ c ∈ cs, isBlank c = false) : trim cs = cs := by
  cases cs with
  | nil => rfl
  | cons c rest =>
      have last := List.dropLast_concat_getLast (List.cons_ne_nil c rest)
      have inside := List.getLast_mem (List.cons_ne_nil c rest)
      exact trim_eq_self rfl last.symm (dark c List.mem_cons_self) (dark _ inside)

theorem not_isBlank_of_isDigit (digit : c.isDigit) : isBlank c = false := by
  have range : 48 ≤ c.toNat ∧ c.toNat ≤ 57 := by
    simpa [Char.isDigit, UInt32.le_iff_toNat_le] using digit
  simp [isBlank, inRanges, blankRanges]
  omega

end Text

namespace Numeral

variable {c : Char} {cs : List Char}

theorem digit?_of_isDigit (digit : c.isDigit) : digit? c = some (c.toNat - '0'.toNat) := by
  have range : '0' ≤ c ∧ c ≤ '9' := by simpa [Char.isDigit, Char.le_def] using digit
  simp [digit?, range]

theorem natural?_of_digits (digits : ∀ c ∈ cs, c.isDigit) (filled : cs ≠ []) :
    natural? cs = some (Nat.ofDigitChars 10 cs 0) := by
  have folded : ∀ n, cs.foldlM (fun n c => (digit? c).map (10 * n + ·)) n =
      some (Nat.ofDigitChars 10 cs n) := by
    clear filled
    induction cs with
    | nil => simp
    | cons c cs ih =>
        obtain ⟨first, others⟩ := List.forall_mem_cons.mp digits
        intro n
        rw [List.foldlM_cons, digit?_of_isDigit first, Nat.ofDigitChars_cons]
        exact ih others _
  have present : cs.isEmpty = false := by simpa using filled
  rw [natural?, present, folded]
  rfl

theorem natural?_toDigits (n : Nat) : natural? (Nat.toDigits 10 n) = some n := by
  have digits : ∀ c ∈ Nat.toDigits 10 n, c.isDigit :=
    fun c member => Nat.isDigit_of_mem_toDigits (by decide) (by decide) member
  rw [natural?_of_digits digits Nat.toDigits_ne_nil, Nat.ofDigitChars_ten_toDigits]

theorem toList_toString_int (i : Int) :
    (toString i).toList = if 0 ≤ i then Nat.toDigits 10 i.toNat
      else '-' :: Nat.toDigits 10 (-i).toNat := by
  rw [Int.toString_eq_repr, Int.repr_eq_if]
  split <;> simp

theorem splitSign_of_isDigit {rest : List Char} (digit : c.isDigit) :
    splitSign (c :: rest) = (false, c :: rest) := by
  unfold splitSign
  split
  · rename_i same
    cases same
    cases digit
  · rename_i same
    cases same
    cases digit
  · rfl

theorem integer?_toString (i : Int) : integer? (toString i).toList = some i := by
  rw [toList_toString_int]
  split
  · rename_i positive
    have filled : Nat.toDigits 10 i.toNat ≠ [] := Nat.toDigits_ne_nil
    obtain ⟨c, rest, shape⟩ := List.exists_cons_of_ne_nil filled
    have first : c ∈ Nat.toDigits 10 i.toNat := by simp [shape]
    have digit : c.isDigit := Nat.isDigit_of_mem_toDigits (by decide) (by decide) first
    have read := natural?_toDigits i.toNat
    rw [shape] at read ⊢
    simp [integer?, splitSign_of_isDigit digit, read, Int.toNat_of_nonneg positive]
  · rename_i negative
    have magnitude : ((-i).toNat : Int) = -i := Int.toNat_of_nonneg (by omega)
    simp [integer?, splitSign, natural?_toDigits, magnitude]

/-- Integers of 64 bits are read back from their text. -/
theorem int64?_toString {i : Int} (fits : fitsInt64 i) : int64? (toString i) = some i := by
  simp only [fitsInt64, Bool.and_eq_true, decide_eq_true_eq] at fits
  rw [int64?, integer?_toString]
  exact if_pos (by simp [fits])

theorem trimmed_toString (i : Int) : Text.trimmed (toString i) = toString i := by
  have dark : ∀ c ∈ (toString i).toList, Text.isBlank c = false := by
    intro c member
    have digit (n : Nat) (inside : c ∈ Nat.toDigits 10 n) : Text.isBlank c = false :=
      Text.not_isBlank_of_isDigit (Nat.isDigit_of_mem_toDigits (by decide) (by decide) inside)
    rw [toList_toString_int] at member
    split at member
    · exact digit _ member
    · obtain rfl | member := List.mem_cons.mp member
      · decide
      · exact digit _ member
  rw [Text.trimmed, Text.trim_of_dark dark, String.ofList_toList]

/-! ### Base sixteen -/

theorem hexDigit?_digitChar : ∀ n < 16, hexDigit? (Nat.digitChar n) = some n := by
  decide

end Numeral

end SqlEngine
