import Mathlib.Data.List.Forall2
import Mathlib.Data.List.Infix
import SqlEngine.Expr.Like
import SqlEngine.Proofs.Text.LowerCase

/-!
What `LIKE` patterns match.

A text fits tokens if it can be cut into runs, one for each wildcard, and single characters, one for
each other token. A state of matching is open if the text can still be cut so, from the place where
it is or with more characters for the last wildcard. Steps keep open states open and others not, and
a state that ran out of text is open if nothing but wildcards is left. The step that needs an
argument is the one over a wildcard, which gives up the wildcards before it: whatever they could
still do, the new wildcard can do by taking more.

Where case does not count, matching turns the value to lower case as a text, and the pattern character
by character. A pattern without wildcards and backslashes so accepts what has the lowercase forms of
its characters one by one. This is the text itself, unless there is a capital I with a dot in it, which
is two characters in the value and none in the pattern that could stand for them, or a capital sigma at
the end of a word, which is a final sigma in the value and a plain one in the pattern.
-/

namespace SqlEngine

namespace LikePattern

variable {same : Char → Char → Bool} {token : LikeToken} {tokens passed : List LikeToken} {c : Char}
  {text rest : List Char} {s t : Search}

/-! ### Texts and tokens -/

/-- The text can be cut into what the tokens stand for. -/
inductive Fits (same : Char → Char → Bool) : List LikeToken → List Char → Prop
  | nil : Fits same [] []
  | run {tokens : List LikeToken} {text : List Char} (taken : List Char) :
      Fits same tokens text → Fits same (.any :: tokens) (taken ++ text)
  | single {token : LikeToken} {tokens : List LikeToken} {c : Char} {text : List Char} :
      token.takes same c → Fits same tokens text → Fits same (token :: tokens) (c :: text)

theorem fits_any_iff : Fits same (.any :: tokens) text ↔
    ∃ rest, rest <:+ text ∧ Fits same tokens rest := by
  constructor
  · intro fits
    cases fits with
    | run taken fits => exact ⟨_, List.suffix_append taken _, fits⟩
    | single impossible => cases impossible
  · rintro ⟨rest, ⟨taken, rfl⟩, fits⟩
    exact .run taken fits

theorem fits_any_of_suffix (suffix : rest <:+ text) (fits : Fits same (.any :: tokens) rest) :
    Fits same (.any :: tokens) text := by
  obtain ⟨last, inside, fits⟩ := fits_any_iff.mp fits
  exact fits_any_iff.mpr ⟨last, inside.trans suffix, fits⟩

theorem fits_any_cons_iff : Fits same (.any :: tokens) (c :: text) ↔
    Fits same tokens (c :: text) ∨ Fits same (.any :: tokens) text := by
  simp only [fits_any_iff, List.suffix_cons_iff]
  constructor
  · rintro ⟨rest, rfl | inside, fits⟩
    · exact .inl fits
    · exact .inr ⟨rest, inside, fits⟩
  · rintro (fits | ⟨rest, inside, fits⟩)
    · exact ⟨c :: text, .inl rfl, fits⟩
    · exact ⟨rest, .inr inside, fits⟩

theorem fits_any_nil_iff : Fits same (.any :: tokens) [] ↔ Fits same tokens [] := by
  simp [fits_any_iff]

theorem fits_cons_iff (single : token ≠ .any) :
    Fits same (token :: tokens) (c :: text) ↔ token.takes same c ∧ Fits same tokens text := by
  constructor
  · intro fits
    generalize shape : c :: text = whole at fits
    cases fits with
    | run => exact absurd rfl single
    | single takes fits =>
        cases shape
        exact ⟨takes, fits⟩
  · rintro ⟨takes, fits⟩
    exact .single takes fits

theorem fits_nil_iff : Fits same tokens [] ↔ tokens.all (· == .any) := by
  induction tokens with
  | nil => simp [Fits.nil]
  | cons token tokens ih =>
      by_cases wildcard : token = .any
      · simp [wildcard, fits_any_nil_iff, ih]
      · have other : (token == .any) = false := by simp [wildcard]
        simp only [List.all_cons, other, Bool.false_and, Bool.false_eq_true, iff_false]
        intro fits
        generalize shape : ([] : List Char) = whole at fits
        cases fits with
        | run => exact wildcard rfl
        | single => cases shape

theorem not_fits_nil_cons : ¬Fits same [] (c :: text) := by
  intro fits
  cases fits

/-- Tokens without wildcards take as many characters as they are. -/
theorem fits_append (bare : .any ∉ passed) (fits : Fits same (passed ++ tokens) text) :
    ∃ taken rest, text = taken ++ rest ∧ taken.length = passed.length ∧ Fits same tokens rest := by
  induction passed generalizing text with
  | nil => exact ⟨[], text, rfl, rfl, fits⟩
  | cons token passed ih =>
      simp only [List.mem_cons, not_or] at bare
      rw [List.cons_append] at fits
      cases fits with
      | run => exact absurd rfl bare.1
      | single takes fits =>
          rename_i c text
          obtain ⟨taken, rest, rfl, size, fits⟩ := ih bare.2 fits
          exact ⟨c :: taken, rest, rfl, by simp [size], fits⟩

/-! ### States of matching -/

namespace Search

/-- The last wildcard could take at least one character more, and the rest of the text would fit. -/
def Extensible (same : Char → Char → Bool) (s : Search) : Prop :=
  ∃ tokens c text, s.last? = some ⟨tokens, c :: text⟩ ∧ Fits same (.any :: tokens) text

/-- The text can be cut so that it fits, without another look at the wildcards before the last. -/
def Open (same : Char → Char → Bool) (s : Search) : Prop :=
  Fits same s.here.tokens s.here.text ∨ s.Extensible same

theorem open_start (p : Place) : (start p).Open same ↔ Fits same p.tokens p.text := by
  simp [Open, Extensible, start]

theorem open_behind (tokens : List LikeToken) (text : List Char) :
    (behind ⟨tokens, text⟩).Open same ↔ Fits same (.any :: tokens) text := by
  cases text with
  | nil => simp [Open, Extensible, behind, fits_any_nil_iff]
  | cons c text =>
      rw [fits_any_cons_iff]
      refine or_congr_right ?_
      constructor
      · rintro ⟨_, _, _, last, fits⟩
        cases last
        exact fits
      · intro fits
        exact ⟨tokens, c, text, rfl, fits⟩

/-- What the last wildcard could do by taking more, a wildcard that is reached from there can do. -/
theorem Extensible.forget {later : List LikeToken} (extensible : s.Extensible same)
    (front : s.here.tokens = .any :: later) : Fits same (.any :: later) s.here.text := by
  obtain ⟨tokens, c, text, last, fits⟩ := extensible
  obtain ⟨passed, taken, pattern, value, bare, alike⟩ := s.reached _ last
  dsimp only at pattern value
  obtain ⟨rest, inside, fits⟩ := fits_any_iff.mp fits
  rw [pattern] at fits
  obtain ⟨again, remaining, rfl, size, fits⟩ := fits_append bare fits
  rw [front] at fits
  -- both rests end the same text, and the one after more characters is the shorter
  have ends : remaining <:+ c :: text :=
    (List.suffix_append again remaining).trans (inside.trans (List.suffix_cons c text))
  have ends' : s.here.text <:+ c :: text := by
    rw [value]
    exact List.suffix_append taken _
  have shorter : remaining.length ≤ s.here.text.length := by
    have total := congrArg List.length value
    have bound := inside.length_le
    simp only [List.length_cons, List.length_append] at total bound
    omega
  exact fits_any_of_suffix (List.suffix_of_suffix_length_le ends ends' shorter) fits

/-- A state at the end of the text cannot be saved by the last wildcard: too few characters would be
left for the tokens that were passed since. -/
theorem not_extensible_of_end (done : s.here.text = []) : ¬s.Extensible same := by
  rintro ⟨tokens, c, text, last, fits⟩
  obtain ⟨passed, taken, pattern, value, bare, alike⟩ := s.reached _ last
  dsimp only at pattern value
  obtain ⟨rest, inside, fits⟩ := fits_any_iff.mp fits
  rw [pattern] at fits
  obtain ⟨again, remaining, rfl, size, -⟩ := fits_append bare fits
  have total := congrArg List.length value
  have bound := inside.length_le
  simp only [done, List.append_nil, List.length_cons, List.length_append] at total bound
  omega

theorem open_end_iff (done : s.here.text = []) : s.Open same ↔ s.here.tokens.all (· == .any) := by
  rw [Open, done, fits_nil_iff, or_iff_left (not_extensible_of_end done)]

theorem open_again (next : s.again? = some t) : t.Open same ↔ s.Extensible same := by
  unfold again? at next
  split at next
  · rename_i tokens c text last
    cases next
    rw [open_behind]
    constructor
    · intro fits
      exact ⟨tokens, c, text, last, fits⟩
    · rintro ⟨_, _, _, again, fits⟩
      cases last.symm.trans again
      exact fits
  · cases next

theorem not_extensible_of_again? (stuck : s.again? = none) : ¬s.Extensible same := by
  rintro ⟨tokens, c, text, last, -⟩
  simp [again?, last] at stuck

/-- A step leads over a wildcard, over a character that fits, or to a new try where nothing fits. -/
theorem next?_cases (present : s.here.text ≠ []) :
    (∃ tokens, s.here.tokens = .any :: tokens ∧
      s.next? same = some (behind ⟨tokens, s.here.text⟩)) ∨
    (∃ token tokens c text,
      ∃ (front : s.here = ⟨token :: tokens, c :: text⟩) (single : token ≠ .any),
        token.takes same c ∧ s.next? same = some (s.pass front single)) ∨
    (¬Fits same s.here.tokens s.here.text ∧ s.next? same = s.again?) := by
  obtain ⟨⟨tokens, text⟩, last, reached⟩ := s
  cases text with
  | nil => exact absurd rfl present
  | cons c text =>
      cases tokens with
      | nil => exact .inr (.inr ⟨not_fits_nil_cons, rfl⟩)
      | cons token tokens =>
          by_cases wildcard : token = .any
          · subst wildcard
            exact .inl ⟨tokens, rfl, rfl⟩
          · right
            by_cases takes : token.takes same c
            · refine .inl ⟨token, tokens, c, text, rfl, wildcard, takes, ?_⟩
              cases token with
              | any => exact absurd rfl wildcard
              | _ => simp only [next?, dif_pos takes]
            · refine .inr ⟨fun fits => takes ((fits_cons_iff wildcard).mp fits).1, ?_⟩
              cases token with
              | any => exact absurd rfl wildcard
              | _ => simp only [next?, dif_neg takes]

theorem open_pass {front : s.here = ⟨token :: tokens, c :: text⟩} {single : token ≠ .any}
    (takes : token.takes same c) : (s.pass front single).Open same ↔ s.Open same := by
  rw [Open, Open, front, fits_cons_iff single]
  simp [pass, Extensible, takes]

/-- No step opens or closes a state. -/
theorem open_next (present : s.here.text ≠ []) (next : s.next? same = some t) :
    t.Open same ↔ s.Open same := by
  obtain ⟨tokens, front, step⟩ | ⟨_, _, _, _, front, single, takes, step⟩ | ⟨misses, step⟩ :=
    next?_cases present
  · cases step.symm.trans next
    rw [open_behind, Open, front]
    exact (or_iff_left_of_imp fun extensible => extensible.forget front).symm
  · cases step.symm.trans next
    exact open_pass takes
  · rw [open_again (step.symm.trans next), Open, or_iff_right misses]

theorem not_open_of_next? (present : s.here.text ≠ []) (stuck : s.next? same = none) :
    ¬s.Open same := by
  obtain ⟨tokens, front, step⟩ | ⟨_, _, _, _, front, single, takes, step⟩ | ⟨misses, step⟩ :=
    next?_cases present
  · cases step.symm.trans stuck
  · cases step.symm.trans stuck
  · rw [Open, or_iff_right misses]
    exact not_extensible_of_again? (step.symm.trans stuck)

/-- Steps lead from the state to an answer. -/
inductive Ends (same : Char → Char → Bool) : Search → Bool → Prop
  | done {s : Search} : s.here.text = [] → Ends same s (s.here.tokens.all (· == .any))
  | stuck {s : Search} : s.here.text ≠ [] → s.next? same = none → Ends same s false
  | step {s t : Search} {answer : Bool} : s.here.text ≠ [] → s.next? same = some t →
      Ends same t answer → Ends same s answer

theorem ends_run (s : Search) : s.Ends same (s.run same) := by
  induction s using run.induct same with
  | case1 s done =>
      rw [run, done]
      exact .done done
  | case2 s c text front t next ih =>
      rw [run, front]
      simp only
      split
      · rename_i other step
        cases next.symm.trans step
        exact .step (by simp [front]) next ih
      · rename_i step
        cases next.symm.trans step
  | case3 s c text front stuck =>
      rw [run, front]
      simp only
      split
      · rename_i other step
        cases stuck.symm.trans step
      · exact .stuck (by simp [front]) stuck

/-- Matching succeeds from exactly the open states. -/
theorem answer_iff_open {answer : Bool} (ends : s.Ends same answer) : answer ↔ s.Open same := by
  induction ends with
  | done done => exact (open_end_iff done).symm
  | stuck present stuck => simp [not_open_of_next? present stuck]
  | step present next _ ih => exact ih.trans (open_next present next)

end Search

theorem accepts_iff_fits (p : LikePattern) (text : String) :
    p.accepts text ↔ Fits (if p.ignoreCase then sameLower else (· == ·)) p.tokens
      (if p.ignoreCase then (Text.lower text).toList else text.toList) := by
  rw [accepts, Search.answer_iff_open (Search.ends_run _), Search.open_start]

/-! ### Patterns as they are written -/

theorem fits_any_any :
    Fits same (.any :: .any :: tokens) text ↔ Fits same (.any :: tokens) text := by
  constructor
  · intro fits
    obtain ⟨rest, inside, fits⟩ := fits_any_iff.mp fits
    exact fits_any_of_suffix inside fits
  · intro fits
    exact fits_any_iff.mpr ⟨text, List.suffix_refl text, fits⟩

/-- A wildcard that is left out behind another one is not missed. -/
theorem fits_collapsed (pattern : List Char) :
    Fits same (.any :: tokensOf true pattern) text ↔
      Fits same (.any :: tokensOf false pattern) text := by
  cases pattern with
  | nil => rfl
  | cons c pattern =>
      by_cases wildcard : c = '%'
      · simp [wildcard, tokensOf, fits_any_any]
      · have alike : tokensOf true (c :: pattern) = tokensOf false (c :: pattern) := by
          unfold tokensOf
          split <;> simp_all
        rw [alike]

/-- The text can be cut into what the characters of the pattern stand for: a percent sign for any
run of characters, an underscore for one character, a backslash for nothing in front of a character
that stands for itself, and for itself at the end. -/
inductive Matches : List Char → List Char → Prop
  | nil : Matches [] []
  | run {pattern text : List Char} (taken : List Char) :
      Matches pattern text → Matches ('%' :: pattern) (taken ++ text)
  | one {pattern text : List Char} (c : Char) :
      Matches pattern text → Matches ('_' :: pattern) (c :: text)
  | escaped {pattern text : List Char} (c : Char) :
      Matches pattern text → Matches ('\\' :: c :: pattern) (c :: text)
  | backslash : Matches ['\\'] ['\\']
  | char {pattern text : List Char} {c : Char} : c ≠ '%' → c ≠ '_' → c ≠ '\\' →
      Matches pattern text → Matches (c :: pattern) (c :: text)

theorem matches_run_iff {pattern : List Char} :
    Matches ('%' :: pattern) text ↔ ∃ rest, rest <:+ text ∧ Matches pattern rest := by
  constructor
  · intro matching
    cases matching with
    | run taken matching => exact ⟨_, List.suffix_append taken _, matching⟩
    | char noRun => exact absurd rfl noRun
  · rintro ⟨rest, ⟨taken, rfl⟩, matching⟩
    exact .run taken matching

theorem fits_single_iff (single : token ≠ .any) : Fits same (token :: tokens) text ↔
    ∃ c rest, text = c :: rest ∧ token.takes same c ∧ Fits same tokens rest := by
  cases text with
  | nil =>
      have none : ¬(token :: tokens).all (· == .any) := by simp [single]
      simp [fits_nil_iff, none]
  | cons c text => simp [fits_cons_iff single]

theorem fits_iff_matches (afterAny : Bool) (pattern text : List Char) :
    Fits (· == ·) (tokensOf false pattern) text ↔ Matches pattern text := by
  -- the flag only steers the induction: what stands behind a wildcard fits the same runs
  have run : ∀ rest, (∀ text, Fits (· == ·) (tokensOf false rest) text ↔ Matches rest text) →
      ∀ text, Fits (· == ·) (tokensOf false ('%' :: rest)) text ↔ Matches ('%' :: rest) text := by
    intro rest ih text
    have step : tokensOf false ('%' :: rest) = .any :: tokensOf true rest := rfl
    rw [step, fits_collapsed, fits_any_iff, matches_run_iff]
    simp only [ih]
  induction afterAny, pattern using tokensOf.induct generalizing text with
  | case1 =>
      rw [tokensOf]
      constructor
      · intro fits
        cases fits
        exact .nil
      · intro matching
        cases matching
        exact .nil
  | case2 rest ih => exact run rest ih text
  | case3 _ rest _ ih => exact run rest ih text
  | case4 _ rest ih =>
      rw [tokensOf, fits_single_iff (by decide)]
      simp only [ih]
      constructor
      · rintro ⟨c, rest, rfl, -, matching⟩
        exact .one c matching
      · intro matching
        cases matching with
        | one c matching => exact ⟨c, _, rfl, rfl, matching⟩
        | char _ noOne => exact absurd rfl noOne
  | case5 =>
      rw [tokensOf, fits_single_iff (by decide)]
      constructor
      · rintro ⟨c, rest, rfl, equal, fits⟩
        cases fits
        rw [← eq_of_beq equal]
        exact .backslash
      · intro matching
        cases matching with
        | backslash => exact ⟨_, [], rfl, rfl, .nil⟩
        | char _ _ noBackslash => exact absurd rfl noBackslash
  | case6 _ c rest ih =>
      rw [tokensOf, fits_single_iff (by simp)]
      simp only [ih]
      constructor
      · rintro ⟨d, rest, rfl, equal, matching⟩
        rw [← eq_of_beq equal]
        exact .escaped c matching
      · intro matching
        cases matching with
        | escaped _ matching => exact ⟨c, _, rfl, beq_self_eq_true c, matching⟩
        | char _ _ noBackslash => exact absurd rfl noBackslash
  | case7 _ c rest noRun noOne notLast noEscape ih =>
      have noBackslash : c ≠ '\\' := by
        rintro rfl
        cases rest with
        | nil => exact notLast rfl rfl
        | cons d rest => exact noEscape d rest rfl rfl
      have step : tokensOf false (c :: rest) = .char c :: tokensOf false rest := by
        rw [tokensOf] <;> assumption
      rw [step, fits_single_iff (by simp)]
      simp only [ih]
      constructor
      · rintro ⟨d, rest, rfl, equal, matching⟩
        rw [← eq_of_beq equal]
        exact .char noRun noOne noBackslash matching
      · intro matching
        cases matching with
        | run => exact absurd rfl noRun
        | one => exact absurd rfl noOne
        | escaped | backslash => exact absurd rfl noBackslash
        | char _ _ _ matching => exact ⟨c, _, rfl, beq_self_eq_true c, matching⟩

/-- Matching comes to an end, and a pattern accepts exactly the texts that it matches as it is
written. -/
theorem accepts_iff_matches (pattern text : String) :
    (Search.start ⟨tokensOf false pattern.toList, text.toList⟩).Ends (· == ·)
      ((ofText pattern false).accepts text) ∧
    ((ofText pattern false).accepts text = true ↔ Matches pattern.toList text.toList) :=
  ⟨Search.ends_run _, (accepts_iff_fits _ text).trans (fits_iff_matches false _ _)⟩

/-- The last wildcard is not the one that has to take the first letters. -/
example : (ofText "%bc%b_" false).accepts "abcabc" = true ∧
    (ofText "%bc%bc" false).accepts "abcab" = false := by
  cbv

/-! ### Patterns without wildcards, with case and without -/

variable {pattern value : String} {cs : List Char}

/-- There are no wildcards and no backslashes in the pattern. -/
def IsPlain (cs : List Char) : Prop := ∀ c ∈ cs, c ≠ '%' ∧ c ≠ '_' ∧ c ≠ '\\'

instance : Decidable (IsPlain cs) := List.decidableBAll _ cs

theorem tokensOf_plain (plain : IsPlain cs) : tokensOf false cs = cs.map .char := by
  induction cs with
  | nil => rfl
  | cons c rest ih =>
      obtain ⟨⟨noRun, noOne, noBackslash⟩, others⟩ := List.forall_mem_cons.mp plain
      have step : tokensOf false (c :: rest) = .char c :: tokensOf false rest := by
        rw [tokensOf]
        · exact noRun
        · exact noOne
        · exact fun same => absurd same noBackslash
        · exact fun _ _ same => absurd same noBackslash
      rw [step, ih others, List.map_cons]

/-- Tokens for single characters take the characters one by one. -/
theorem fits_chars_iff :
    Fits same (cs.map .char) text ↔ List.Forall₂ (fun c d => same c d = true) cs text := by
  induction cs generalizing text with
  | nil =>
      rw [List.map_nil, List.forall₂_nil_left_iff]
      cases text with
      | nil => simp [Fits.nil]
      | cons d rest => simp [not_fits_nil_cons]
  | cons c cs ih =>
      rw [List.map_cons, fits_single_iff (by simp), List.forall₂_cons_left_iff]
      simp only [ih]
      constructor
      · rintro ⟨d, rest, rfl, takes, fits⟩
        exact ⟨d, rest, takes, fits, rfl⟩
      · rintro ⟨d, rest, takes, fits, rfl⟩
        exact ⟨d, rest, rfl, takes, fits⟩

/-- Where case counts, a plain pattern accepts itself only. -/
theorem accepts_exact_iff (plain : IsPlain pattern.toList) :
    (ofText pattern false).accepts value = true ↔ pattern = value := by
  rw [accepts_iff_fits]
  simp only [ofText, Bool.false_eq_true, if_false, tokensOf_plain plain, fits_chars_iff, beq_iff_eq,
    List.forall₂_eq_eq_eq, String.toList_inj]

/-- Where case does not count, each character of the lowercase value has to be the whole lowercase form
of the character in its place. -/
theorem accepts_plain_iff (plain : IsPlain pattern.toList) :
    (ofText pattern true).accepts value = true ↔
      pattern.toList.map Text.lowerChar = (Text.lower value).toList.map ([·]) := by
  rw [accepts_iff_fits, ← List.forall₂_eq_eq_eq, List.forall₂_map_left_iff,
    List.forall₂_map_right_iff]
  simp only [ofText, if_true, tokensOf_plain plain, fits_chars_iff, sameLower, beq_iff_eq]

/-- A plain pattern accepts itself without regard to case exactly if there is no capital I with a dot
in it, and no capital sigma at the end of a word. -/
theorem accepts_self_iff (plain : IsPlain value.toList) : (ofText value true).accepts value = true ↔
    'İ' ∉ value.toList ∧ ¬Text.HasFinalSigma [] value.toList := by
  rw [accepts_plain_iff plain, Text.lower, String.toList_ofList, Text.map_lowerChar_eq_iff]

/-- A word with a sigma at its end does not match itself, and neither does a dotted I. -/
theorem exampleSigma_refused :
    (ofText "ΟΔΟΣ" true).accepts "ΟΔΟΣ" = false ∧ (ofText "İ" true).accepts "İ" = false := by
  constructor
  · rw [← Bool.not_eq_true, accepts_self_iff (by decide)]
    exact fun ⟨_, bare⟩ => bare ⟨"ΟΔΟ".toList, [], rfl, by decide +kernel, rfl⟩
  · rw [← Bool.not_eq_true, accepts_self_iff (by decide)]
    exact fun ⟨bare, _⟩ => bare (by decide)

end LikePattern

end SqlEngine
