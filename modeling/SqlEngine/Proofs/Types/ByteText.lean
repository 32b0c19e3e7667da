import SqlEngine.Proofs.Text.LowerCase
import SqlEngine.Proofs.Types.ArrayText

/-!
Byte arrays in hexadecimal digits.

Behind `\x` a text is read in pairs of characters, and bytes are shown in such pairs. What is shown is
read back, and what is read in an even number of digits is shown in lower case as it was written. But
not each pair that is read is two digits: a plus sign may stand in place of the first one, and it is
shown as a zero. So a text is read or refused as it is meant unless it is read with a plus sign in it.
-/

namespace SqlEngine

namespace Literal

variable {c high low : Char} {cs rest : List Char} {b : UInt8} {bytes : List UInt8} {text : String}

/-! ### Digits -/

/-- A hexadecimal digit, either case. -/
def isHexDigit (c : Char) : Bool :=
  '0' ≤ c && c ≤ '9' || 'a' ≤ c && c ≤ 'f' || 'A' ≤ c && c ≤ 'F'

theorem isHexDigit_of_hexDigit? {n : Nat} (read : Numeral.hexDigit? c = some n) :
    isHexDigit c = true := by
  unfold Numeral.hexDigit? at read
  unfold isHexDigit
  split at read
  · rename_i decimal
    rw [decimal, Bool.true_or, Bool.true_or]
  · split at read
    · rename_i small
      rw [small, Bool.or_true, Bool.true_or]
    · split at read
      · rename_i capital
        rw [capital, Bool.or_true]
      · cases read

theorem ascii_of_isHexDigit (digit : isHexDigit c = true) : c.toNat < 128 := by
  have bound : c ≤ 'f' := by
    simp only [isHexDigit, Bool.or_eq_true, Bool.and_eq_true, decide_eq_true_eq] at digit
    rcases digit with (⟨-, last⟩ | ⟨-, last⟩) | ⟨-, last⟩
    · exact Char.le_trans last (by decide)
    · exact last
    · exact Char.le_trans last (by decide)
  exact Nat.lt_of_le_of_lt (UInt32.le_iff_toNat_le.mp bound) (by decide)

/-- A digit has a value, and the digit for this value is the same in lower case. -/
theorem exists_hexDigit? (digit : isHexDigit c = true) :
    ∃ n < 16, Numeral.hexDigit? c = some n ∧ Nat.digitChar n = c.toLower :=
  Text.forall_ascii (P := fun c => isHexDigit c = true →
    ∃ n < 16, Numeral.hexDigit? c = some n ∧ Nat.digitChar n = c.toLower) (by decide)
    (ascii_of_isHexDigit digit) digit

theorem ne_plus_of_isHexDigit (digit : isHexDigit c = true) : c ≠ '+' := by
  rintro rfl
  cases digit

/-! ### Pairs -/

/-- The digit that is shown for a character of a pair. -/
def shownDigit (c : Char) : Char := if c = '+' then '0' else c.toLower

theorem shownDigit_of_isHexDigit (digit : isHexDigit c = true) : shownDigit c = c.toLower :=
  if_neg (ne_plus_of_isHexDigit digit)

/-- Two characters that stand for a byte: a digit or a plus sign, and a digit. -/
def IsPair (high low : Char) : Prop :=
  (isHexDigit high = true ∨ high = '+') ∧ isHexDigit low = true

/-- Texts in pairs of characters that stand for bytes. -/
inductive Pairs : List Char → Prop
  | nil : Pairs []
  | cons {high low : Char} {rest : List Char} : IsPair high low → Pairs rest →
      Pairs (high :: low :: rest)

theorem hexByte_ofNat {m n : Nat} (first : m < 16) (second : n < 16) :
    hexByte (UInt8.ofNat (16 * m + n)) = [Nat.digitChar m, Nat.digitChar n] := by
  have size : (UInt8.ofNat (16 * m + n)).toNat = 16 * m + n := by
    rw [UInt8.toNat_ofNat']
    omega
  have quotient : (16 * m + n) / 16 = m := by omega
  have remainder : (16 * m + n) % 16 = n := by omega
  rw [hexByte, size, quotient, remainder]

/-- A pair is read as the byte that is shown in its digits. -/
theorem IsPair.read (pair : IsPair high low) :
    ∃ b, byte? high low = some b ∧ hexByte b = [shownDigit high, shownDigit low] := by
  obtain ⟨first, second⟩ := pair
  obtain ⟨n, small, value, shown⟩ := exists_hexDigit? second
  rw [shownDigit_of_isHexDigit second, ← shown]
  rcases first with first | rfl
  · obtain ⟨m, small', value', shown'⟩ := exists_hexDigit? first
    have unsigned : (high == '+') = false :=
      beq_eq_false_iff_ne.mpr (ne_plus_of_isHexDigit first)
    refine ⟨UInt8.ofNat (16 * m + n), ?_, ?_⟩
    · rw [byte?, unsigned, value, value']
      rfl
    · rw [hexByte_ofNat small' small, shownDigit_of_isHexDigit first, shown']
  · refine ⟨UInt8.ofNat (16 * 0 + n), ?_, hexByte_ofNat (by decide) small⟩
    rw [byte?, value, Nat.mul_zero, Nat.zero_add]
    rfl

theorem isPair_of_byte? (read : byte? high low = some b) : IsPair high low := by
  unfold byte? at read
  split at read
  · rename_i signed
    obtain ⟨n, value, -⟩ := Option.map_eq_some_iff.mp read
    exact ⟨.inr (eq_of_beq signed), isHexDigit_of_hexDigit? value⟩
  · simp only [Option.bind_eq_bind, Option.bind_eq_some_iff] at read
    obtain ⟨m, value, n, value', -⟩ := read
    exact ⟨.inl (isHexDigit_of_hexDigit? value), isHexDigit_of_hexDigit? value'⟩

/-- Pairs are read, and they are shown as they are but for the case and the plus signs. -/
theorem Pairs.read (pairs : Pairs cs) :
    ∃ bytes, bytePairs? cs = some bytes ∧ bytes.flatMap hexByte = cs.map shownDigit := by
  induction pairs with
  | nil => exact ⟨[], rfl, rfl⟩
  | cons pair _ ih =>
      obtain ⟨b, one, digits⟩ := pair.read
      obtain ⟨bytes, others, shown⟩ := ih
      refine ⟨b :: bytes, ?_, ?_⟩
      · rw [bytePairs?, one, others]
        rfl
      · rw [List.flatMap_cons, digits, shown]
        rfl

theorem pairs_of_bytePairs? (read : bytePairs? cs = some bytes) : Pairs cs := by
  induction cs using bytePairs?.induct generalizing bytes with
  | case1 => exact .nil
  | case2 => cases read
  | case3 high low rest ih =>
      rw [bytePairs?] at read
      simp only [Option.bind_eq_bind, Option.bind_eq_some_iff] at read
      obtain ⟨b, one, others, read, -⟩ := read
      exact .cons (isPair_of_byte? one) (ih read)

/-! ### Texts -/

theorem bytea?_marked (marked : text.toList = '\\' :: 'x' :: rest) :
    bytea? text = bytePairs? rest := by
  simp only [bytea?, marked]

/-- Exactly the pairs are read, as the bytes that are shown in the same digits, with zeros in place of
plus signs. -/
theorem bytea?_eq_some_iff (marked : text.toList = '\\' :: 'x' :: rest) :
    bytea? text = some bytes ↔
      Pairs rest ∧
        (Value.bytea bytes).render = String.ofList ('\\' :: 'x' :: rest.map shownDigit) := by
  have shape : (Value.bytea bytes).render =
      String.ofList ('\\' :: 'x' :: bytes.flatMap hexByte) := rfl
  rw [bytea?_marked marked, shape, String.ofList_inj, List.cons_inj_right, List.cons_inj_right]
  constructor
  · intro read
    have pairs := pairs_of_bytePairs? read
    obtain ⟨_, again, shown⟩ := pairs.read
    cases read.symm.trans again
    exact ⟨pairs, shown⟩
  · rintro ⟨pairs, same⟩
    obtain ⟨others, read, shown⟩ := pairs.read
    -- the digits determine the bytes, since they are read back
    have equal := congrArg bytePairs? (shown.trans same.symm)
    rw [bytePairs?_hexBytes, bytePairs?_hexBytes] at equal
    rw [read, equal]

/-- An even number of digits. -/
def EvenDigits (cs : List Char) : Prop := cs.length % 2 = 0 ∧ ∀ c ∈ cs, isHexDigit c = true

theorem evenDigits_cons : EvenDigits (high :: low :: rest) ↔
    isHexDigit high = true ∧ isHexDigit low = true ∧ EvenDigits rest := by
  have parity : (rest.length + 1 + 1) % 2 = rest.length % 2 := by omega
  simp only [EvenDigits, List.length_cons, parity, List.forall_mem_cons]
  exact and_left_comm.trans (and_congr_right fun _ => and_left_comm)

/-- The pairs that are meant are the ones without plus signs. -/
theorem evenDigits_iff : EvenDigits cs ↔ Pairs cs ∧ '+' ∉ cs := by
  induction cs using bytePairs?.induct with
  | case1 => simp [EvenDigits, Pairs.nil]
  | case2 c =>
      refine iff_of_false (fun ⟨even, _⟩ => absurd even (by simp)) fun ⟨pairs, _⟩ => ?_
      cases pairs
  | case3 high low rest ih =>
      rw [evenDigits_cons, ih]
      simp only [List.mem_cons, not_or]
      constructor
      · rintro ⟨first, second, pairs, unsigned⟩
        exact ⟨.cons ⟨.inl first, second⟩ pairs, (ne_plus_of_isHexDigit first).symm,
          (ne_plus_of_isHexDigit second).symm, unsigned⟩
      · rintro ⟨pairs, unsigned⟩
        obtain _ | ⟨⟨first, second⟩, pairs⟩ := pairs
        exact ⟨first.resolve_right (Ne.symm unsigned.1), second, pairs, unsigned.2.2⟩

theorem map_shownDigit (digits : EvenDigits cs) : cs.map shownDigit = cs.map Char.toLower :=
  List.map_congr_left fun c member => shownDigit_of_isHexDigit (digits.2 c member)

/-- Without plus signs exactly an even number of digits is read, as the bytes that are shown as the
same text in lower case. -/
theorem bytea?_unsigned_iff (marked : text.toList = '\\' :: 'x' :: rest) (unsigned : '+' ∉ rest) :
    bytea? text = some bytes ↔
      EvenDigits rest ∧ (Value.bytea bytes).render = Text.lower text := by
  have pairs : EvenDigits rest ↔ Pairs rest := evenDigits_iff.trans (and_iff_left unsigned)
  rw [bytea?_eq_some_iff marked, ← pairs]
  refine and_congr_right fun digits => ?_
  have ascii : ∀ c ∈ '\\' :: 'x' :: rest, c.toNat < 128 := by
    simp only [List.forall_mem_cons]
    exact ⟨by decide, by decide, fun c member => ascii_of_isHexDigit (digits.2 c member)⟩
  have lower : Text.lower text = String.ofList ('\\' :: 'x' :: rest.map Char.toLower) := by
    rw [Text.lower, marked, Text.lowerAfter_ascii [] ascii]
    rfl
  rw [lower, map_shownDigit digits]

/-- A text is read as it is meant, or refused as it is meant to be, unless it is read with a plus
sign in it. -/
theorem bytea?_isSome_iff_evenDigits (marked : text.toList = '\\' :: 'x' :: rest) :
    ((bytea? text).isSome = true ↔ EvenDigits rest) ↔ ¬(Pairs rest ∧ '+' ∈ rest) := by
  have read : (bytea? text).isSome = true ↔ Pairs rest := by
    rw [bytea?_marked marked, Option.isSome_iff_exists]
    constructor
    · rintro ⟨bytes, read⟩
      exact pairs_of_bytePairs? read
    · intro pairs
      obtain ⟨bytes, read, -⟩ := pairs.read
      exact ⟨bytes, read⟩
  rw [read, evenDigits_iff, iff_self_and, not_and]

/-- A plus sign and one digit are read as a byte. -/
theorem exampleSigned_read : bytea? "\\x+1" = some [1] ∧ ¬EvenDigits ['+', '1'] := by
  refine ⟨by decide, fun digits => ?_⟩
  exact absurd (digits.2 '+' List.mem_cons_self) (by decide)

end Literal

end SqlEngine
