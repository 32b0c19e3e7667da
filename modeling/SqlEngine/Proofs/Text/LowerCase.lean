import SqlEngine.Text.Case

/-!
Lower case of texts against lower case of characters.

A text is turned to lower case character by character, with two exceptions. A capital I with a dot
becomes two characters. And a capital sigma becomes a final sigma at the end of a word, where a sigma
on its own becomes a plain one. On a text without the two, and only there, the lowercase form has the
lowercase form of each character in its place.
-/

namespace SqlEngine

namespace Text

variable {c : Char} {before cs : List Char}

/-- What holds of the first 128 characters holds of every ASCII character. -/
theorem forall_ascii {P : Char → Prop} (each : ∀ n < 128, P (Char.ofNat n)) (ascii : c.toNat < 128) :
    P c := by
  have this := each c.toNat ascii
  rwa [Char.ofNat_toNat] at this

theorem lowerAfter_ascii (before : List Char) (ascii : ∀ c ∈ cs, c.toNat < 128) :
    lowerAfter before cs = cs.map Char.toLower := by
  induction cs generalizing before with
  | nil => rfl
  | cons c rest ih =>
      obtain ⟨first, others⟩ := List.forall_mem_cons.mp ascii
      have plain : (c == 'Σ') = false := by
        rw [beq_eq_false_iff_ne]
        rintro rfl
        exact absurd first (by decide)
      rw [lowerAfter, plain, ih _ others, List.map_cons]
      simp [lowerChar, first]

/-- There is a capital sigma at the end of a word: behind a letter with a case and in front of none,
where `before` holds what stands before the text, last character first. -/
def HasFinalSigma (before cs : List Char) : Prop :=
  ∃ front rest, cs = front ++ 'Σ' :: rest ∧ facesCased (front.reverse ++ before) = true ∧
    facesCased rest = false

theorem not_hasFinalSigma_nil : ¬HasFinalSigma before [] := by
  rintro ⟨front, rest, shape, -⟩
  simp at shape

theorem hasFinalSigma_cons_iff : HasFinalSigma before (c :: cs) ↔
    c = 'Σ' ∧ facesCased before = true ∧ facesCased cs = false ∨ HasFinalSigma (c :: before) cs := by
  constructor
  · rintro ⟨front, rest, shape, word, ends⟩
    cases front with
    | nil =>
        cases shape
        exact .inl ⟨rfl, word, ends⟩
    | cons d front =>
        cases shape
        rw [List.reverse_cons, List.append_assoc] at word
        exact .inr ⟨front, rest, rfl, word, ends⟩
  · rintro (⟨rfl, word, ends⟩ | ⟨front, rest, rfl, word, ends⟩)
    · exact ⟨[], cs, rfl, word, ends⟩
    · refine ⟨c :: front, rest, rfl, ?_, ends⟩
      rwa [List.reverse_cons, List.append_assoc]

theorem lowerChar_sigma : lowerChar 'Σ' = ['σ'] := by decide +kernel

/-- Only the capital I with a dot has a lowercase form of more than one character. -/
theorem exists_lowerChar (other : c ≠ 'İ') : ∃ d, lowerChar c = [d] := by
  have code : ¬c.toNat == 0x130 := by
    rw [beq_iff_eq]
    intro same
    have char : Char.ofNat c.toNat = Char.ofNat 0x130 := congrArg Char.ofNat same
    rw [Char.ofNat_toNat] at char
    exact other char
  rw [lowerChar, if_neg code]
  split
  · exact ⟨_, rfl⟩
  · exact ⟨_, rfl⟩

/-- The lowercase form of a text has the lowercase form of each character in its place exactly if
there is neither of the two exceptions in it. -/
theorem map_lowerChar_eq_iff : cs.map lowerChar = (lowerAfter before cs).map ([·]) ↔
    'İ' ∉ cs ∧ ¬HasFinalSigma before cs := by
  induction cs generalizing before with
  | nil => simp [lowerAfter, not_hasFinalSigma_nil]
  | cons c rest ih =>
      rw [hasFinalSigma_cons_iff, lowerAfter, List.mem_cons, List.map_cons]
      by_cases sigma : c = 'Σ'
      · subst sigma
        have other : 'İ' ≠ 'Σ' := by decide
        by_cases final : facesCased before = true ∧ facesCased rest = false
        · have unlike : ['σ'] ≠ ['ς'] := by decide
          simp [lowerChar_sigma, final]
        · have plain : (facesCased before && !facesCased rest) = false := by
            simpa using final
          simp [lowerChar_sigma, plain, ih, final, other]
      · have bare : (c == 'Σ') = false := beq_eq_false_iff_ne.mpr sigma
        by_cases dotted : c = 'İ'
        · subst dotted
          simp [bare, lowerChar]
        · obtain ⟨d, form⟩ := exists_lowerChar dotted
          simp [bare, form, ih, sigma, Ne.symm dotted]

end Text

end SqlEngine
