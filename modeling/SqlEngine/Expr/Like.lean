import SqlEngine.Text.Case

/-!
`LIKE` patterns.

A pattern is a list of tokens. Matching takes tokens and characters off the front and remembers one
place to go back to, the one behind the last wildcard: where a character does not fit, that wildcard
takes a character more. Wildcards before the last one are not looked at again.
-/

namespace SqlEngine

/-- An element of a pattern. -/
inductive LikeToken where
  /-- Any run of characters, also an empty one. -/
  | any
  /-- Exactly one character. -/
  | one
  | char (c : Char)
deriving DecidableEq, Repr, Inhabited

/-- Does a token stand for a character? A wildcard stands for runs and not for characters. -/
def LikeToken.takes (same : Char → Char → Bool) : LikeToken → Char → Bool
  | any, _ => false
  | one, _ => true
  | char c, d => same c d

structure LikePattern where
  tokens : List LikeToken
  ignoreCase : Bool
deriving DecidableEq, Repr, Inhabited

namespace LikePattern

/-- The tokens of a pattern. Wildcards in a row are one, so it counts whether one came just before.
A backslash takes the next character literally, or stands for itself at the end. -/
def tokensOf (afterAny : Bool) : List Char → List LikeToken
  | [] => []
  | '%' :: rest => if afterAny then tokensOf true rest else .any :: tokensOf true rest
  | '_' :: rest => .one :: tokensOf false rest
  | ['\\'] => [.char '\\']
  | '\\' :: c :: rest => .char c :: tokensOf false rest
  | c :: rest => .char c :: tokensOf false rest

def ofText (pattern : String) (ignoreCase : Bool) : LikePattern :=
  ⟨tokensOf false pattern.toList, ignoreCase⟩

/-! ### Matching -/

/-- What is left of a pattern and of a text. -/
structure Place where
  tokens : List LikeToken
  text : List Char
deriving DecidableEq, Repr, Inhabited

/-- The second place is reached from the first by tokens that took one character each. -/
def Place.Reaches (start here : Place) : Prop :=
  ∃ passed taken, start.tokens = passed ++ here.tokens ∧ start.text = taken ++ here.text ∧
    .any ∉ passed ∧ passed.length = taken.length

theorem Place.Reaches.refl (p : Place) : p.Reaches p :=
  ⟨[], [], rfl, rfl, List.not_mem_nil, rfl⟩

theorem Place.Reaches.step {start : Place} {token : LikeToken} {tokens : List LikeToken} {c : Char}
    {text : List Char} (single : token ≠ .any)
    (reached : start.Reaches ⟨token :: tokens, c :: text⟩) : start.Reaches ⟨tokens, text⟩ := by
  obtain ⟨passed, taken, pattern, value, bare, alike⟩ := reached
  refine ⟨passed ++ [token], taken ++ [c], ?_, ?_, ?_, ?_⟩
  · simp [pattern]
  · simp [value]
  · simp [bare, single.symm]
  · simp [alike]

/-- A state of matching: the place where it is, and the place behind the last wildcard. -/
structure Search where
  here : Place
  last? : Option Place
  reached : ∀ start ∈ last?, start.Reaches here

namespace Search

variable {s t : Search} {same : Char → Char → Bool}

def start (p : Place) : Search := ⟨p, none, fun _ member => nomatch member⟩

/-- Goes on behind a wildcard. -/
def behind (p : Place) : Search := ⟨p, some p, fun _ member => Option.some.inj member ▸ .refl p⟩

/-- Lets a token take a character. -/
def pass (s : Search) {token : LikeToken} {tokens : List LikeToken} {c : Char} {text : List Char}
    (front : s.here = ⟨token :: tokens, c :: text⟩) (single : token ≠ .any) : Search :=
  ⟨⟨tokens, text⟩, s.last?, fun start member => .step single (front ▸ s.reached start member)⟩

/-- Lets the last wildcard take a character more. -/
def again? (s : Search) : Option Search :=
  match s.last? with
  | some ⟨tokens, _ :: text⟩ => some (behind ⟨tokens, text⟩)
  | _ => none

theorem ne_any_of_takes {token : LikeToken} {c : Char} (fits : token.takes same c) :
    token ≠ .any := by
  rintro rfl
  cases fits

/-- A step of matching, as long as there is text. -/
def next? (same : Char → Char → Bool) (s : Search) : Option Search :=
  match front : s.here with
  | ⟨.any :: tokens, text⟩ => some (behind ⟨tokens, text⟩)
  | ⟨token :: _, c :: _⟩ =>
    if fits : token.takes same c then some (s.pass front (ne_any_of_takes fits)) else s.again?
  | _ => s.again?

/-- The tokens behind the last wildcard; all tokens and one more before there was a wildcard. -/
def span (s : Search) : Nat := (s.last?.map (·.tokens.length)).getD (s.here.tokens.length + 1)

/-- The characters that the last wildcard may still take. -/
def slack (s : Search) : Nat := (s.last?.map (·.text.length)).getD 0

theorem lt_of_again? (next : s.again? = some t) : t.span = s.span ∧ t.slack < s.slack := by
  unfold again? at next
  split at next
  · rename_i last
    cases next
    simp [span, slack, behind, last]
  · cases next

/-- A wildcard leaves fewer tokens behind it than the one before it, a new try leaves the last
wildcard fewer characters, and a character that fits leaves fewer tokens. -/
theorem lt_of_next? (next : s.next? same = some t) :
    t.span < s.span ∨ t.span = s.span ∧ (t.slack < s.slack ∨
      t.slack = s.slack ∧ t.here.tokens.length < s.here.tokens.length) := by
  unfold next? at next
  split at next
  · rename_i tokens text front
    cases next
    left
    cases last : s.last? with
    | none =>
        simp only [span, behind, last, front, Option.map_some, Option.map_none, Option.getD_some,
          Option.getD_none, List.length_cons]
        omega
    | some start =>
        obtain ⟨passed, taken, pattern, -⟩ := s.reached start last
        rw [front] at pattern
        simp only [span, behind, last, Option.map_some, Option.getD_some, pattern,
          List.length_append, List.length_cons]
        omega
  · rename_i front
    split at next
    · cases next
      cases last : s.last? with
      | none => simp [span, pass, last, front]
      | some start => simp [span, slack, pass, last, front]
    · exact .inr ((lt_of_again? next).imp_right .inl)
  · exact .inr ((lt_of_again? next).imp_right .inl)

/-- Takes steps until the text is used up; the tokens that are left may only be wildcards then. -/
def run (same : Char → Char → Bool) (s : Search) : Bool :=
  match s.here.text with
  | [] => s.here.tokens.all (· == .any)
  | _ :: _ =>
    match _step : s.next? same with
    | some t => run same t
    | none => false
termination_by (s.span, s.slack, s.here.tokens.length)
decreasing_by
  simpa only [Prod.lex_def] using lt_of_next? _step

end Search

/-- Does a character of a pattern stand for a character of a text in lower case? -/
def sameLower (c d : Char) : Bool := Text.lowerChar c == [d]

/-- Does the whole text match the pattern? -/
def accepts (p : LikePattern) (text : String) : Bool :=
  let value := if p.ignoreCase then (Text.lower text).toList else text.toList
  let same := if p.ignoreCase then sameLower else (· == ·)
  (Search.start ⟨p.tokens, value⟩).run same

end LikePattern

end SqlEngine
