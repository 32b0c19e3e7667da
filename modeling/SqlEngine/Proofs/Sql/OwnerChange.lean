import Mathlib.Data.List.Basic
import SqlEngine.Database.Definition
import SqlEngine.Proofs.Run
import SqlEngine.Proofs.Text.LowerCase
import SqlEngine.Sql.Batch

/-!
Which statements are taken for a change of the owner of a table.

Such a change is not kept, so a statement that is taken for one has no effect. The first two tokens
decide about it and the last three, and what stands between the table and these is dropped.
-/

namespace SqlEngine

theorem QName.ne_nil_of_ofParts {ids : List Sql.Ident} {q : QName} (named : ofParts ids = .ok q) :
    ids ≠ [] := by
  rintro rfl
  cases named

namespace Sql

namespace OwnForm

open Run (bind_ok map_ok)

variable {α β : Type} {tokens rest : List Token} {words : List String} {q : QName}

/-! ### Readers -/

theorem bind_run_ok {m : Reader α} {f : α → Reader β} {b : β}
    (ran : (m >>= f).run tokens = .ok (b, rest)) :
    ∃ a left, m.run tokens = .ok (a, left) ∧ (f a).run left = .ok (b, rest) := by
  rw [StateT.run_bind] at ran
  obtain ⟨⟨a, left⟩, first, ran⟩ := bind_ok ran
  exact ⟨a, left, first, ran⟩

theorem bind_of_run {m : Reader α} {f : α → Reader β} {left : List Token} {a : α}
    (ran : m.run tokens = .ok (a, left)) : (m >>= f).run tokens = (f a).run left := by
  rw [StateT.run_bind, ran]
  rfl

/-- Whatever the reader gives is as described. -/
def Gives (p : α → Prop) (m : Reader α) : Prop :=
  ∀ tokens a rest, m.run tokens = .ok (a, rest) → p a

theorem Gives.pure {p : α → Prop} {a : α} (holds : p a) : Gives p (pure a) := by
  intro tokens b rest ran
  cases ran
  exact holds

theorem Gives.bind {p : β → Prop} {m : Reader α} {f : α → Reader β} (each : ∀ a, Gives p (f a)) :
    Gives p (m >>= f) := by
  intro tokens b rest ran
  obtain ⟨a, left, -, ran⟩ := bind_run_ok ran
  exact each a left b rest ran

/-- What is left behind the given words, if all of them come first. -/
def past (words : List String) (tokens : List Token) : List Token :=
  if begins words tokens then tokens.drop words.length else tokens

theorem words?_run (words : List String) (tokens : List Token) :
    (words? words).run tokens = .ok (begins words tokens, past words tokens) := by
  change (if begins words tokens then _ else _ : Reader Bool).run tokens = _
  unfold past
  split
  · rename_i there
    rw [there]
    rfl
  · rename_i missing
    rw [Bool.eq_false_iff.mpr missing]
    rfl

theorem identifier_ok_iff {name : String} :
    identifier.run tokens = .ok (name, rest) ↔
      ∃ id, tokens = .word id :: rest ∧ id.name = name := by
  constructor
  · intro ran
    cases tokens with
    | nil => cases ran
    | cons token others =>
        cases token with
        | word id =>
            cases ran
            exact ⟨id, rfl, rfl⟩
        | _ => cases ran
  · rintro ⟨id, rfl, rfl⟩
    rfl

/-! ### Dotted names -/

/-- The tokens of a dotted name. -/
def dotted (ids : List Ident) : List Token := (ids.map Token.word).intersperse (.symbol ".")

theorem dotted_cons {id : Ident} {ids : List Ident} (more : ids ≠ []) :
    dotted (id :: ids) = .word id :: .symbol "." :: dotted ids := by
  obtain ⟨next, others, rfl⟩ := List.exists_cons_of_ne_nil more
  rfl

theorem partsUpTo_last {id : Ident} (most : Nat) (last : rest.head? ≠ some (.symbol ".")) :
    (partsUpTo (most + 1)).run (.word id :: rest) = .ok ([id.name], rest) := by
  have got : (get : Reader (List Token)).run rest = .ok (rest, rest) := rfl
  rw [partsUpTo, bind_of_run (identifier_ok_iff.mpr ⟨id, rfl, rfl⟩), bind_of_run got]
  split
  · exact absurd rfl last
  · rfl

theorem partsUpTo_dot {id : Ident} (most : Nat) (later : List Token) :
    (partsUpTo (most + 1)).run (.word id :: .symbol "." :: later) =
      ((partsUpTo most).run later).map fun (names, rest) => (id.name :: names, rest) := by
  change (do
    let names ← partsUpTo most
    pure (id.name :: names) : Reader (List String)).run later = _
  rw [StateT.run_bind]
  cases (partsUpTo most).run later <;> rfl

theorem dotted_concat {id : Ident} : ∀ {ids : List Ident}, ids ≠ [] →
    dotted (ids ++ [id]) = dotted ids ++ [.symbol ".", .word id]
  | [_], _ => rfl
  | _ :: next :: ids, _ => by
      rw [List.cons_append, dotted_cons (by simp), dotted_cons (List.cons_ne_nil next ids),
        dotted_concat (List.cons_ne_nil next ids)]
      rfl

/-- Every part is followed by a dot, up to the last one, which is not. -/
theorem partsUpTo_ok_iff {names : List String} : ∀ {most : Nat} {tokens : List Token},
    tokens.length < most → ((partsUpTo most).run tokens = .ok (names, rest) ↔
      ∃ ids, ids ≠ [] ∧ tokens = dotted ids ++ rest ∧ rest.head? ≠ some (.symbol ".") ∧
        ids.map Ident.name = names)
  | most + 1, tokens, enough => by
      constructor
      · -- induction on the bound: what is left behind a dot is shorter by two tokens
        intro ran
        obtain ⟨name, others, first, -⟩ := bind_run_ok ran
        obtain ⟨id, rfl, rfl⟩ := identifier_ok_iff.mp first
        by_cases more : others.head? = some (.symbol ".")
        · obtain ⟨later, rfl⟩ := List.head?_eq_some_iff.mp more
          rw [partsUpTo_dot] at ran
          obtain ⟨⟨names, rest⟩, read, shape⟩ := map_ok ran
          cases shape
          have fewer : later.length < most := by
            simp only [List.length_cons] at enough
            omega
          obtain ⟨ids, nonempty, rfl, ends, rfl⟩ := (partsUpTo_ok_iff fewer).mp read
          exact ⟨id :: ids, by simp, by simp [dotted_cons nonempty], ends, rfl⟩
        · rw [partsUpTo_last most more] at ran
          cases ran
          exact ⟨[id], by simp, rfl, more, rfl⟩
      · rintro ⟨ids, nonempty, rfl, ends, rfl⟩
        obtain ⟨id, ids, rfl⟩ := List.exists_cons_of_ne_nil nonempty
        by_cases more : ids = []
        · subst more
          exact partsUpTo_last most ends
        · rw [dotted_cons more] at enough ⊢
          have fewer : (dotted ids ++ rest).length < most := by
            simp only [List.cons_append, List.length_cons] at enough
            omega
          rw [List.cons_append, List.cons_append, partsUpTo_dot,
            (partsUpTo_ok_iff fewer).mpr ⟨ids, more, rfl, ends, rfl⟩]
          rfl

/-- A name of one part, or of two with a dot between them, and no dot behind it. -/
theorem qualifiedName_ok_iff : qualifiedName.run tokens = .ok (q, rest) ↔
    ∃ ids, tokens = dotted ids ++ rest ∧ rest.head? ≠ some (.symbol ".") ∧ ids.length ≤ 2 ∧
      QName.ofParts ids = .ok q := by
  have reads {names : List String} {left : List Token} :
      parts.run tokens = .ok (names, left) ↔ _ := partsUpTo_ok_iff (Nat.lt_succ_self tokens.length)
  constructor
  · intro ran
    obtain ⟨names, left, read, ran⟩ := bind_run_ok ran
    obtain ⟨ids, -, shape, ends, rfl⟩ := reads.mp read
    match ids with
    | [] => cases ran
    | [name] =>
        cases ran
        exact ⟨[name], shape, ends, by simp, rfl⟩
    | [schema, name] =>
        cases ran
        exact ⟨[schema, name], shape, ends, by simp, rfl⟩
    | _ :: _ :: _ :: _ => cases ran
  · rintro ⟨ids, shape, ends, few, named⟩
    have nonempty := QName.ne_nil_of_ofParts named
    rw [qualifiedName, bind_of_run (reads.mpr ⟨ids, nonempty, shape, ends, rfl⟩)]
    match ids, named with
    | [_], named | [_, _], named =>
        cases named
        rfl
    | _ :: _ :: _ :: _, _ => simp at few

/-! ### The form that is read -/

theorem begins_cons_iff {word : String} : begins (word :: words) tokens ↔
    ∃ token rest, tokens = token :: rest ∧ isWord word token ∧ begins words rest := by
  cases tokens with
  | nil => simp [begins]
  | cons token rest => simp [begins, and_assoc]

theorem eq_of_isWord {first second : String} {token : Token} (one : isWord first token)
    (other : isWord second token) : first = second := by
  unfold isWord at one other
  split at one
  · exact (beq_iff_eq.mp one).symm.trans (beq_iff_eq.mp other)
  · cases one

theorem owner_ok_iff {s : Statement} : owner.run tokens = .ok (s, rest) ↔
    ∃ q, s = .alterOwner q ∧
      qualifiedName.run (past ["only"] (past ["if", "exists"] tokens)) = .ok (q, rest) := by
  rw [owner, bind_of_run (words?_run _ _), word?, bind_of_run (words?_run _ _)]
  constructor
  · intro ran
    obtain ⟨q, left, read, ran⟩ := bind_run_ok ran
    cases ran
    exact ⟨q, rfl, read⟩
  · rintro ⟨q, rfl, read⟩
    rw [bind_of_run read]
    rfl

theorem form?_alter_table (opens : begins ["alter", "table"] tokens) :
    form? tokens = if endsInOwner tokens then some (owner, 2) else none := by
  obtain ⟨alter, _, rfl, isAlter, opens⟩ := begins_cons_iff.mp opens
  obtain ⟨table, rest, rfl, isTable, -⟩ := begins_cons_iff.mp opens
  have other {word : String} (apart : word ≠ "alter") : isWord word alter = false :=
    Bool.eq_false_iff.mpr fun same => apart (eq_of_isWord same isAlter)
  have another : isWord "sequence" table = false :=
    Bool.eq_false_iff.mpr fun same => absurd (eq_of_isWord same isTable) (by decide)
  simp [form?, begins, other, another, isAlter, isTable]

def isOwnerChange : Statement → Bool
  | .alterOwner _ => true
  | _ => false

theorem extension_gives : Gives (isOwnerChange · = false) extension :=
  .bind fun _ => .bind fun _ => .bind fun _ => .bind fun _ => .bind fun _ => .pure rfl

theorem newSequence_gives : Gives (isOwnerChange · = false) newSequence :=
  .bind fun _ => .bind fun _ => .bind fun _ => .pure rfl

theorem changedSequence_gives : Gives (isOwnerChange · = false) changedSequence :=
  .bind fun _ => .bind fun _ => .bind fun _ => .pure rfl

theorem enumeration_gives : Gives (isOwnerChange · = false) enumeration := by
  refine .bind fun _ => .bind fun _ => .bind fun _ => .bind fun labels => .bind fun left => ?_
  cases left.head? with
  | some token => exact fun _ _ _ ran => by cases ran
  | none => exact .pure rfl

/-- No other form gives a change of an owner. -/
theorem form?_gives {reader : Reader Statement} {words : Nat}
    (called : form? tokens = some (reader, words)) : Gives (isOwnerChange · = false) reader ∨
      begins ["alter", "table"] tokens ∧ endsInOwner tokens := by
  unfold form? at called
  split_ifs at called with _ _ _ _ _ _ owns <;> cases called
  · exact .inl extension_gives
  · exact .inl newSequence_gives
  · exact .inl newSequence_gives
  · exact .inl newSequence_gives
  · exact .inl changedSequence_gives
  · exact .inl enumeration_gives
  · exact .inr ((Bool.and_eq_true _ _).mp owns)

theorem read_iff_past : read tokens = .ok (some (.alterOwner q)) ↔
    begins ["alter", "table"] tokens ∧ endsInOwner tokens ∧ ∃ rest, qualifiedName.run
      (past ["only"] (past ["if", "exists"] (tokens.drop 2))) = .ok (q, rest) := by
  have taken (opens : begins ["alter", "table"] tokens) (ends : endsInOwner tokens) :
      read tokens = .ok (some (.alterOwner q)) ↔ ∃ rest, qualifiedName.run
        (past ["only"] (past ["if", "exists"] (tokens.drop 2))) = .ok (q, rest) := by
    rw [read, form?_alter_table opens, if_pos ends]
    constructor
    · intro given
      obtain ⟨⟨s, rest⟩, ran, shape⟩ := map_ok given
      cases shape
      obtain ⟨q, same, named⟩ := owner_ok_iff.mp ran
      cases same
      exact ⟨rest, named⟩
    · rintro ⟨rest, named⟩
      exact congrArg (Except.map _) (owner_ok_iff.mpr ⟨q, rfl, named⟩)
  constructor
  · intro given
    have ⟨opens, ends⟩ : begins ["alter", "table"] tokens ∧ endsInOwner tokens := by
      rw [read] at given
      split at given
      · rename_i reader words called
        obtain ⟨⟨s, rest⟩, ran, shape⟩ := map_ok given
        cases shape
        exact (form?_gives called).resolve_left fun gives => by
          simpa [isOwnerChange] using gives _ _ _ ran
      · cases given
    exact ⟨opens, ends, (taken opens ends).mp given⟩
  · rintro ⟨opens, ends, named⟩
    exact (taken opens ends).mpr named

/-! ### The beginning of a change of a table -/

/-- Whether the tokens are the given words. -/
def areWords (words : List String) (tokens : List Token) : Bool :=
  tokens.length == words.length && begins words tokens

theorem areWords_nil_iff : areWords [] tokens ↔ tokens = [] := by
  simp [areWords, begins]

theorem areWords_cons_iff {word : String} : areWords (word :: words) tokens ↔
    ∃ token rest, tokens = token :: rest ∧ isWord word token ∧ areWords words rest := by
  cases tokens with
  | nil => simp [areWords]
  | cons token rest => simp [areWords, begins, and_left_comm, and_assoc]

theorem exists_last_of_areWords {word : String} : ∀ (words : List String) {tokens : List Token},
    areWords (words ++ [word]) tokens →
      ∃ before last, tokens = before ++ [last] ∧ isWord word last
  | [], tokens, are => by
      obtain ⟨last, _, rfl, spelled, none⟩ := areWords_cons_iff.mp are
      exact ⟨[], last, by rw [areWords_nil_iff.mp none]; rfl, spelled⟩
  | first :: words, tokens, are => by
      obtain ⟨token, others, rfl, -, are⟩ := areWords_cons_iff.mp are
      obtain ⟨before, last, rfl, spelled⟩ := exists_last_of_areWords words are
      exact ⟨token :: before, last, rfl, spelled⟩

theorem begins_append (rest : List Token) : ∀ {words : List String} {front : List Token},
    front.length = words.length → begins words (front ++ rest) = begins words front
  | [], [], _ => rfl
  | word :: words, token :: front, same => by
      rw [List.cons_append, begins, begins, begins_append rest (by simpa using same)]

theorem length_le_of_begins : ∀ {words : List String} {tokens : List Token},
    begins words tokens → words.length ≤ tokens.length
  | [], _, _ => Nat.zero_le _
  | word :: words, tokens, there => by
      obtain ⟨token, rest, rfl, -, there⟩ := begins_cons_iff.mp there
      exact Nat.succ_le_succ (length_le_of_begins there)

/-- The given words come first if they are taken off the front. -/
theorem begins_append_of_areWords {front : List Token} (are : areWords words front) :
    begins words (front ++ rest) := by
  rw [areWords, Bool.and_eq_true, beq_iff_eq] at are
  rw [begins_append rest are.1]
  exact are.2

theorem past_append {front : List Token} (are : areWords words front) :
    past words (front ++ rest) = rest := by
  rw [past, if_pos (begins_append_of_areWords are)]
  rw [areWords, Bool.and_eq_true, beq_iff_eq] at are
  exact List.drop_left' are.1

theorem areWords_take (there : begins words tokens) :
    areWords words (tokens.take words.length) := by
  have enough : (tokens.take words.length).length = words.length :=
    List.length_take_of_le (length_le_of_begins there)
  rw [areWords, ← begins_append (tokens.drop words.length) enough, List.take_append_drop,
    enough, there]
  simp

/-- `ALTER TABLE [IF EXISTS] [ONLY] name`. The word `ONLY` begins a name only behind another one. -/
structure Head where
  opening : List Token
  guard : List Token
  only : List Token
  ids : List Ident
  opens : areWords ["alter", "table"] opening
  guards : guard = [] ∨ areWords ["if", "exists"] guard
  marks : only = [] ∧ (∀ id ∈ ids.head?, isWord "only" (.word id) = false) ∨
    areWords ["only"] only

namespace Head

def toTokens (h : Head) : List Token := h.opening ++ (h.guard ++ (h.only ++ dotted h.ids))

theorem opening_length (h : Head) : h.opening.length = 2 := by
  have are := h.opens
  rw [areWords, Bool.and_eq_true, beq_iff_eq] at are
  exact are.1

/-- The name ends in front of the given tokens, and it is not taken for `IF EXISTS`. -/
structure Ends (h : Head) (rest : List Token) : Prop where
  dotless : rest.head? ≠ some (.symbol ".")
  unguarded : h.guard = [] → begins ["if", "exists"] (h.only ++ (dotted h.ids ++ rest)) = false

end Head

theorem past_of_begins_eq_false (missing : begins words tokens = false) :
    past words tokens = tokens := by
  simp [past, missing]

theorem append_past (words : List String) (tokens : List Token) : ∃ front,
    tokens = front ++ past words tokens ∧
      (front = [] ∧ begins words tokens = false ∨ areWords words front) := by
  cases there : begins words tokens with
  | false => exact ⟨[], (past_of_begins_eq_false there).symm, .inl ⟨rfl, rfl⟩⟩
  | true =>
      refine ⟨tokens.take words.length, ?_, .inr (areWords_take there)⟩
      rw [past, if_pos there, List.take_append_drop]

theorem begins_only_dotted {ids : List Ident} (nonempty : ids ≠ []) :
    begins ["only"] (dotted ids ++ rest) = false ↔
      ∀ id ∈ ids.head?, isWord "only" (.word id) = false := by
  obtain ⟨id, ids, rfl⟩ := List.exists_cons_of_ne_nil nonempty
  cases ids <;> simp [dotted, begins]

theorem Head.past_eq (h : Head) (nonempty : h.ids ≠ []) (ends : h.Ends rest) :
    past ["only"] (past ["if", "exists"] ((h.toTokens ++ rest).drop 2)) = dotted h.ids ++ rest := by
  have behind : (h.toTokens ++ rest).drop 2 = h.guard ++ (h.only ++ (dotted h.ids ++ rest)) := by
    rw [toTokens, List.append_assoc, List.drop_left' h.opening_length, List.append_assoc,
      List.append_assoc]
  have named : past ["only"] (h.only ++ (dotted h.ids ++ rest)) = dotted h.ids ++ rest := by
    rcases h.marks with ⟨absent, plain⟩ | marks
    · rw [absent, List.nil_append]
      exact past_of_begins_eq_false ((begins_only_dotted nonempty).mpr plain)
    · exact past_append marks
  rw [behind]
  rcases h.guards with absent | guards
  · have missing := ends.unguarded absent
    rw [absent, List.nil_append, past_of_begins_eq_false missing, named]
  · rw [past_append guards, named]

theorem exists_head {ids : List Ident} (nonempty : ids ≠ [])
    (opens : begins ["alter", "table"] tokens)
    (shape : past ["only"] (past ["if", "exists"] (tokens.drop 2)) = dotted ids ++ rest)
    (dotless : rest.head? ≠ some (.symbol ".")) :
    ∃ h : Head, h.ids = ids ∧ tokens = h.toTokens ++ rest ∧ h.Ends rest := by
  obtain ⟨guard, guarded, guards⟩ := append_past ["if", "exists"] (tokens.drop 2)
  obtain ⟨only, marked, marks⟩ := append_past ["only"] (past ["if", "exists"] (tokens.drop 2))
  rw [shape] at marked
  have whole : tokens = tokens.take 2 ++ (guard ++ (only ++ (dotted ids ++ rest))) := by
    rw [← marked, ← guarded, List.take_append_drop]
  refine ⟨⟨tokens.take 2, guard, only, ids, areWords_take opens, guards.imp_left And.left, ?_⟩, rfl,
    ?_, dotless, ?_⟩
  · refine marks.imp_left fun ⟨absent, missing⟩ => ⟨absent, ?_⟩
    rw [marked, absent, List.nil_append] at missing
    exact (begins_only_dotted nonempty).mp missing
  · simpa [Head.toTokens] using whole
  · rintro rfl
    rcases guards with ⟨-, missing⟩ | are
    · rwa [guarded, List.nil_append, marked] at missing
    · cases are

/-- What is taken for a change of the owner of a table: the name of a table comes behind the first
words of a change, and the last three tokens are as they should be. -/
theorem read_alterOwner_iff : read tokens = .ok (some (.alterOwner q)) ↔
    ∃ (h : Head) (rest : List Token), tokens = h.toTokens ++ rest ∧ h.Ends rest ∧
      h.ids.length ≤ 2 ∧ QName.ofParts h.ids = .ok q ∧ endsInOwner tokens := by
  rw [read_iff_past]
  constructor
  · rintro ⟨opens, ends, rest, named⟩
    obtain ⟨ids, shape, dotless, few, named⟩ := qualifiedName_ok_iff.mp named
    obtain ⟨h, rfl, whole, stops⟩ := exists_head (QName.ne_nil_of_ofParts named) opens shape dotless
    exact ⟨h, rest, whole, stops, few, named, ends⟩
  · rintro ⟨h, rest, rfl, stops, few, named, ends⟩
    refine ⟨?_, ends, rest, qualifiedName_ok_iff.mpr
      ⟨h.ids, h.past_eq (QName.ne_nil_of_ofParts named) stops, stops.dotless, few, named⟩⟩
    rw [Head.toTokens, List.append_assoc]
    exact begins_append_of_areWords h.opens

/-! ### What stands behind the name -/

theorem isWord_of_ne {first second : String} {token : Token} (one : isWord first token)
    (apart : second ≠ first) : isWord second token = false :=
  Bool.eq_false_iff.mpr fun same => apart (eq_of_isWord same one)

theorem endsInOwner_append {front : List Token} {first second last : Token}
    (long : 2 ≤ front.length) :
    endsInOwner (front ++ [first, second, last]) =
      (isWord "to" second && isWord "owner" first) := by
  have many : 2 ≤ front.reverse.length := by simpa using long
  match back : front.reverse, many with
  | _ :: _ :: _, _ => simp [endsInOwner, back]

theorem endsInOwner_iff : endsInOwner tokens ↔ ∃ front owner towards role,
    tokens = front ++ [owner, towards, role] ∧ 2 ≤ front.length ∧ isWord "owner" owner ∧
      isWord "to" towards := by
  constructor
  · intro ends
    unfold endsInOwner at ends
    split at ends
    · rename_i role towards owner fourth fifth others back
      have whole := congrArg List.reverse back
      rw [List.reverse_reverse] at whole
      rw [Bool.and_eq_true] at ends
      exact ⟨(fourth :: fifth :: others).reverse, owner, towards, role, by simpa using whole,
        by simp, ends.2, ends.1⟩
    · cases ends
  · rintro ⟨front, owner, towards, role, rfl, long, isOwner, isTo⟩
    rw [endsInOwner_append long, isTo, isOwner]
    rfl

namespace Head

variable {h : Head}

theorem two_le_length (h : Head) : 2 ≤ h.toTokens.length := by
  rw [toTokens, List.length_append, h.opening_length]
  exact Nat.le_add_right 2 _

/-- A name without dots behind it ends in front of what is not `EXISTS`. -/
theorem ends_of_ne (nonempty : h.ids ≠ []) (dotless : rest.head? ≠ some (.symbol "."))
    (free : ∀ token ∈ rest.head?, isWord "exists" token = false) : h.Ends rest := by
  refine ⟨dotless, fun _ => ?_⟩
  obtain ⟨id, ids, shape⟩ := List.exists_cons_of_ne_nil nonempty
  rw [shape]
  rcases h.marks with ⟨absent, -⟩ | marks
  · rw [absent, List.nil_append]
    cases ids with
    | nil =>
        cases rest with
        | nil => simp [dotted, begins]
        | cons token rest => simp [dotted, begins, free token rfl]
    | cons next ids =>
        rw [dotted_cons (List.cons_ne_nil next ids)]
        simp [begins, isWord]
  · obtain ⟨token, _, shape, isOnly, -⟩ := areWords_cons_iff.mp marks
    rw [shape, List.cons_append, begins, isWord_of_ne isOnly (by decide)]
    rfl

variable {old new : Ident} {id : Ident} {owner towards role rename : Token} {column : List Token}

theorem dotless_of_isWord {word : String} {token : Token} (spelled : isWord word token) :
    (token :: rest).head? ≠ some (.symbol ".") := by
  rintro same
  cases same
  cases spelled

/-- Every change of an owner is read as one. -/
theorem read_owner (few : h.ids.length ≤ 2) (named : QName.ofParts h.ids = .ok q)
    (isOwner : isWord "owner" owner) (isTo : isWord "to" towards) :
    read (h.toTokens ++ [owner, towards, role]) = .ok (some (.alterOwner q)) := by
  have nonempty := QName.ne_nil_of_ofParts named
  have ends : h.Ends [owner, towards, role] := ends_of_ne nonempty (dotless_of_isWord isOwner) <| by
    rintro _ ⟨⟩
    exact isWord_of_ne isOwner (by decide)
  refine read_alterOwner_iff.mpr ⟨h, _, rfl, ends, few, named, ?_⟩
  exact endsInOwner_iff.mpr ⟨_, owner, towards, role, rfl, h.two_le_length, isOwner, isTo⟩

theorem form?_eq (h : Head) (rest : List Token) : form? (h.toTokens ++ rest) =
    if endsInOwner (h.toTokens ++ rest) then some (OwnForm.owner, 2) else none := by
  refine form?_alter_table ?_
  rw [Head.toTokens, List.append_assoc]
  exact begins_append_of_areWords h.opens

theorem read_of_endsInOwner_eq_false (ends : endsInOwner (h.toTokens ++ rest) = false) :
    read (h.toTokens ++ rest) = .ok none := by
  rw [read, h.form?_eq, ends]
  rfl

/-- A column is renamed. This is taken for a change of the owner if the name of the column is
written as the word `OWNER`. -/
theorem read_renameColumn (few : h.ids.length ≤ 2) (named : QName.ofParts h.ids = .ok q)
    (isRename : isWord "rename" rename) (isTo : isWord "to" towards) :
    read (h.toTokens ++ rename :: (column ++ [.word old, towards, .word new])) =
      .ok (if isWord "owner" (.word old) then some (.alterOwner q) else none) := by
  have nonempty := QName.ne_nil_of_ofParts named
  have whole : h.toTokens ++ rename :: (column ++ [.word old, towards, .word new]) =
      (h.toTokens ++ rename :: column) ++ [.word old, towards, .word new] := by simp
  have ends : endsInOwner (h.toTokens ++ rename :: (column ++ [.word old, towards, .word new])) =
      isWord "owner" (.word old) := by
    have long : 2 ≤ (h.toTokens ++ rename :: column).length :=
      Nat.le_trans h.two_le_length (by simp)
    rw [whole, endsInOwner_append long, isTo, Bool.true_and]
  cases isOwner : isWord "owner" (.word old) with
  | false => exact read_of_endsInOwner_eq_false (ends.trans isOwner)
  | true =>
      have stops : h.Ends (rename :: (column ++ [.word old, towards, .word new])) :=
        ends_of_ne nonempty (dotless_of_isWord isRename) <| by
          rintro _ ⟨⟩
          exact isWord_of_ne isRename (by decide)
      exact read_alterOwner_iff.mpr ⟨h, _, rfl, stops, few, named, ends.trans isOwner⟩

/-- A table is renamed. This is not taken for a change of the owner. -/
theorem read_renameTable {ids : List Ident} (nonempty : ids ≠ [])
    (isRename : isWord "rename" rename) :
    read (h.toTokens ++ rename :: towards :: dotted ids) = .ok none := by
  refine read_of_endsInOwner_eq_false (Bool.eq_false_iff.mpr fun ends => ?_)
  obtain ⟨front, last, rfl⟩ := (List.eq_nil_or_concat' ids).resolve_left nonempty
  obtain ⟨before, owner, other, role, whole, -, isOwner, isTo⟩ := endsInOwner_iff.mp ends
  by_cases single : front = []
  · have same : h.toTokens ++ [rename, towards, .word last] = before ++ [owner, other, role] := by
      rw [← whole, single]
      rfl
    obtain ⟨-, tails⟩ := List.append_inj' same rfl
    cases tails
    rw [isWord_of_ne isRename (by decide)] at isOwner
    cases isOwner
  · have same : (h.toTokens ++ rename :: towards :: dotted front) ++ [.symbol ".", .word last] =
        (before ++ [owner]) ++ [other, role] := by
      rw [dotted_concat single] at whole
      simpa using whole
    obtain ⟨-, tails⟩ := List.append_inj' same rfl
    cases tails
    cases isTo

theorem exists_front (h : Head) : ∃ before previous,
    h.opening ++ (h.guard ++ h.only) = before ++ [previous] ∧ isWord "owner" previous = false ∧
      isWord "to" previous = false := by
  rcases h.marks with ⟨absent, -⟩ | marks
  · rcases h.guards with missing | guards
    · obtain ⟨before, table, opened, isTable⟩ :=
        exists_last_of_areWords ["alter"] h.opens
      exact ⟨before, table, by rw [opened, missing, absent]; simp,
        isWord_of_ne isTable (by decide), isWord_of_ne isTable (by decide)⟩
    · obtain ⟨before, there, guarded, isThere⟩ := exists_last_of_areWords ["if"] guards
      exact ⟨h.opening ++ before, there, by rw [guarded, absent]; simp,
        isWord_of_ne isThere (by decide), isWord_of_ne isThere (by decide)⟩
  · obtain ⟨before, only, marked, isOnly⟩ := exists_last_of_areWords [] marks
    exact ⟨h.opening ++ (h.guard ++ before), only, by rw [marked]; simp,
      isWord_of_ne isOnly (by decide), isWord_of_ne isOnly (by decide)⟩

/-- In front of the last part of the name stands a dot or one of the first words. -/
theorem exists_last (nonempty : h.ids ≠ []) : ∃ before previous last,
    h.toTokens = before ++ [previous, .word last] ∧ h.ids.getLast? = some last ∧
      isWord "owner" previous = false ∧ isWord "to" previous = false := by
  obtain ⟨front, last, shape⟩ := (List.eq_nil_or_concat' h.ids).resolve_left nonempty
  have final : h.ids.getLast? = some last := by rw [shape, List.getLast?_concat]
  by_cases single : front = []
  · obtain ⟨before, previous, whole, notOwner, notTo⟩ := h.exists_front
    refine ⟨before, previous, last, ?_, final, notOwner, notTo⟩
    calc h.toTokens = (h.opening ++ (h.guard ++ h.only)) ++ dotted h.ids := by simp [toTokens]
      _ = before ++ [previous, .word last] := by simp [whole, shape, single, dotted]
  · refine ⟨h.opening ++ (h.guard ++ (h.only ++ dotted front)), .symbol ".", last, ?_, final, rfl,
      rfl⟩
    simp [toTokens, shape, dotted_concat single]

/-- Whatever stands between the name of the table and `OWNER TO` is dropped, unless `OWNER` is the
end of the name. -/
theorem read_alterOwner_cases (taken : read tokens = .ok (some (.alterOwner q))) :
    ∃ h : Head, QName.ofParts h.ids = .ok q ∧ ∃ towards role, isWord "to" towards ∧
      ((∃ dropped owner, tokens = h.toTokens ++ (dropped ++ [owner, towards, role]) ∧
          isWord "owner" owner) ∨
        ∃ last, tokens = h.toTokens ++ [towards, role] ∧ h.ids.getLast? = some last ∧
          isWord "owner" (.word last)) := by
  obtain ⟨h, rest, rfl, stops, few, named, ends⟩ := read_alterOwner_iff.mp taken
  obtain ⟨front, owner, towards, role, whole, -, isOwner, isTo⟩ := endsInOwner_iff.mp ends
  refine ⟨h, named, towards, role, isTo, ?_⟩
  obtain ⟨before, previous, last, shape, final, notOwner, notTo⟩ :=
    h.exists_last (QName.ne_nil_of_ofParts named)
  -- the last three tokens stand behind the name, or the name overlaps with some of them
  rcases List.append_eq_append_iff.mp whole with ⟨dropped, -, rfl⟩ | ⟨overlap, ending, tail⟩
  · exact .inl ⟨dropped, owner, rfl, isOwner⟩
  · rw [shape] at ending
    match overlap, tail with
    | [], tail => exact .inl ⟨[], owner, by rw [tail]; rfl, isOwner⟩
    | [_], tail =>
        cases tail
        have ending : (before ++ [previous]) ++ [.word last] = front ++ [owner] := by
          simpa using ending
        cases (List.append_inj' ending rfl).2
        exact .inr ⟨last, rfl, final, isOwner⟩
    | [_, _], tail =>
        cases tail
        cases (List.append_inj' ending rfl).2
        rw [notOwner] at isOwner
        cases isOwner
    | [_, _, _], tail =>
        cases tail
        have ending : before ++ [previous, .word last] = (front ++ [owner]) ++ [towards, role] := by
          simpa using ending
        cases (List.append_inj' ending rfl).2
        rw [notTo] at isTo
        cases isTo

end Head

/-! ### Key words -/

theorem upperChar_of_lowerAscii {c : Char} (small : (Numeral.lowerAscii c).toNat < 128) :
    Text.upperChar c = [(Numeral.lowerAscii c).toUpper] := by
  have ascii : c.toNat < 128 := by
    unfold Numeral.lowerAscii at small
    split at small
    · rename_i capital
      rw [Bool.and_eq_true, decide_eq_true_eq, decide_eq_true_eq] at capital
      exact Nat.lt_of_le_of_lt capital.2 (by decide)
    · exact small
  have same : c.toUpper = (Numeral.lowerAscii c).toUpper :=
    Text.forall_ascii (P := fun c => c.toUpper = (Numeral.lowerAscii c).toUpper) (by decide) ascii
  rw [Text.upperChar, if_pos ascii, same]

/-- A word of ASCII letters. -/
def isAscii (word : String) : Bool := word.toList.all fun c => c.toNat < 128

/-- A token that is the given word spells the key word, too. -/
theorem keyword?_of_isWord {word : String} {token : Token} (spelled : isWord word token)
    (ascii : isAscii word) :
    token.keyword? = some (String.ofList (word.toList.map Char.toUpper)) := by
  unfold isWord at spelled
  split at spelled
  · rename_i value
    rw [beq_iff_eq] at spelled
    have chars : word.toList = value.toList.map Numeral.lowerAscii := by
      rw [← spelled, String.toList_map]
    rw [Token.keyword?, Text.upper, chars, List.map_map, List.map_eq_flatMap]
    refine congrArg (some ∘ String.ofList) (List.flatMap_congr fun c member => ?_)
    have small := List.all_eq_true.mp ascii _ (chars ▸ List.mem_map_of_mem member)
    exact upperChar_of_lowerAscii (of_decide_eq_true small)
  · cases spelled

theorem keywords_of_areWords : ∀ {words : List String} {tokens : List Token},
    areWords words tokens → words.all isAscii →
      tokens.map Token.keyword? =
        words.map fun word => some (String.ofList (word.toList.map Char.toUpper))
  | [], tokens, are, _ => by rw [areWords_nil_iff.mp are]; rfl
  | word :: words, tokens, are, ascii => by
      obtain ⟨token, others, rfl, spelled, are⟩ := areWords_cons_iff.mp are
      obtain ⟨first, ascii⟩ := Bool.and_eq_true_iff.mp ascii
      rw [List.map_cons, keyword?_of_isWord spelled first, keywords_of_areWords are ascii]
      rfl

end OwnForm

/-! ### The general grammar -/

namespace Parser

variable {α β : Type} {front more rest : List Token}

/-- The parser takes the tokens `front` off in front of `rest`, and gives `a`. -/
def Takes (p : Parser α) (front rest : List Token) (a : α) : Prop :=
  ∀ depth lexemes, lexemes.map Lexeme.token = front ++ rest →
    p depth lexemes = some (a, lexemes.drop front.length)

theorem Takes.pure (a : α) (rest : List Token) : Takes (pure a) [] rest a := fun _ _ _ => rfl

theorem Takes.bind {p : Parser α} {f : α → Parser β} {a : α} {b : β}
    (first : Takes p front (more ++ rest) a) (second : Takes (f a) more rest b) :
    Takes (p >>= f) (front ++ more) rest b := by
  intro depth lexemes shape
  rw [List.append_assoc] at shape
  have left : (lexemes.drop front.length).map Lexeme.token = more ++ rest := by
    rw [List.map_drop, shape, List.drop_left]
  change (p depth lexemes).bind (fun (a, left) => f a depth left) = _
  rw [first depth lexemes shape]
  exact (second depth _ left).trans (by rw [List.drop_drop, List.length_append])

theorem keywords?_taken {words : List String}
    (spelled : front.map Token.keyword? = words.map some) :
    Takes (keywords? words) front rest true := by
  intro depth lexemes shape
  have long : words.length = front.length := by simpa using (congrArg List.length spelled).symm
  have there : (lexemes.take words.length).map (fun t => t.token.keyword?) = words.map some := by
    have cut : (lexemes.map Lexeme.token).take words.length = front := by
      rw [shape, long, List.take_left]
    rw [← spelled, ← cut, List.map_take, List.map_take, List.map_map]
    rfl
  change (if (lexemes.take words.length).map (fun t => t.token.keyword?) == words.map some
    then _ else _ : Parser Bool) depth lexemes = _
  rw [if_pos (beq_iff_eq.mpr there), ← long]
  rfl

theorem keywords?_missing {words : List String}
    (missing : (rest.take words.length).map Token.keyword? ≠ words.map some) :
    Takes (keywords? words) [] rest false := by
  intro depth lexemes shape
  have absent : (lexemes.take words.length).map (fun t => t.token.keyword?) ≠ words.map some := by
    rw [List.nil_append] at shape
    rw [← shape, List.map_take, List.map_map] at missing
    rwa [List.map_take]
  change (if (lexemes.take words.length).map (fun t => t.token.keyword?) == words.map some
    then _ else _ : Parser Bool) depth lexemes = _
  rw [if_neg (by simpa using absent)]
  rfl

theorem identifier_taken (id : Ident) (rest : List Token) :
    Takes identifier [.word id] rest id := by
  intro depth lexemes shape
  obtain ⟨⟨token, place, offset⟩, others, rfl, isWord, -⟩ := List.map_eq_cons_iff.mp shape
  cases isWord
  rfl

theorem symbol?_taken (spelling : String) (rest : List Token) :
    Takes (symbol? spelling) [.symbol spelling] rest true := by
  intro depth lexemes shape
  obtain ⟨first, others, rfl, isSymbol, -⟩ := List.map_eq_cons_iff.mp shape
  change (if some first.token == some (.symbol spelling) then _ else _ : Parser Bool) depth
    (first :: others) = _
  rw [isSymbol, if_pos (beq_self_eq_true _)]
  rfl

theorem symbol?_missing {spelling : String} (missing : rest.head? ≠ some (.symbol spelling)) :
    Takes (symbol? spelling) [] rest false := by
  intro depth lexemes shape
  have first : (lexemes[0]?).map Lexeme.token = rest.head? := by
    rw [← List.head?_eq_getElem?, ← List.head?_map, shape]
    rfl
  change (if (lexemes[0]?).map Lexeme.token == some (.symbol spelling) then _ else _ : Parser Bool)
    depth lexemes = _
  rw [first, if_neg (by simpa using missing)]
  rfl

theorem Takes.map {p : Parser α} {a : α} (f : α → β) (taken : Takes p front rest a) :
    Takes (do return f (← p)) front rest (f a) := by
  intro depth lexemes shape
  change (p depth lexemes).bind (fun (a, left) => some (f a, left)) = _
  rw [taken depth lexemes shape]
  rfl

theorem keywords_taken {words : List String} (spelled : front.map Token.keyword? = words.map some) :
    Takes (keywords words) front rest () := by
  rw [← List.append_nil front]
  exact (keywords?_taken spelled).bind (.pure () rest)

theorem keyword?_missing {word : String}
    (missing : ∀ token ∈ rest.head?, token.keyword? ≠ some word) :
    Takes (keyword? word) [] rest false := by
  refine keywords?_missing ?_
  cases rest with
  | nil => simp
  | cons token rest => simpa using missing

theorem peek_bind (f : Option Token → Parser α) (depth : Nat) (first : Lexeme)
    (others : List Lexeme) :
    (peek >>= f) depth (first :: others) =
      f (some first.token) depth (first :: others) := rfl

theorem oneOf_taken {words : List String} {token : Token} {word : String}
    (spelled : token.keyword? = some word) (known : words.contains word) (rest : List Token) :
    Takes (oneOf words) [token] rest word := by
  intro depth lexemes shape
  obtain ⟨first, others, rfl, rfl, -⟩ := List.map_eq_cons_iff.mp shape
  have found : oneOf? words depth (first :: others) = some (some word, others) := by
    rw [oneOf?, peek_bind, Option.bind_some, spelled]
    simp only [known, if_true]
    rfl
  change (oneOf? words depth (first :: others)).bind _ = _
  rw [found]
  rfl

theorem dottedUpTo_taken (dotless : rest.head? ≠ some (.symbol ".")) : ∀ {ids : List Ident}
    {most : Nat}, ids ≠ [] → ids.length ≤ most →
      Takes (dottedUpTo most) (OwnForm.dotted ids) rest ids
  | [id], most + 1, _, _ => by
      change Takes (dottedUpTo (most + 1)) ([.word id] ++ ([] ++ [])) rest [id]
      refine (identifier_taken id _).bind ((symbol?_missing dotless).bind ?_)
      exact .pure [id] rest
  | id :: next :: ids, most + 1, _, few => by
      have later : Takes (dottedUpTo most) (OwnForm.dotted (next :: ids)) rest (next :: ids) :=
        dottedUpTo_taken dotless (List.cons_ne_nil next ids) (Nat.le_of_succ_le_succ few)
      change Takes (dottedUpTo (most + 1))
        ([.word id] ++ ([.symbol "."] ++ OwnForm.dotted (next :: ids))) rest _
      refine (identifier_taken id _).bind ((symbol?_taken "." _).bind ?_)
      exact later.map (id :: ·)

theorem dotted_taken {ids : List Ident} (nonempty : ids ≠ [])
    (dotless : rest.head? ≠ some (.symbol ".")) : Takes dotted (OwnForm.dotted ids) rest ids := by
  intro depth lexemes shape
  have enough : ids.length ≤ lexemes.length + 1 := by
    have same := congrArg List.length shape
    simp only [List.length_map, List.length_append, OwnForm.dotted, List.length_intersperse] at same
    omega
  exact dottedUpTo_taken dotless nonempty enough depth lexemes shape

/-- One item and no comma behind it. -/
theorem commaSeparated_one {item : Parser α} {a : α} (taken : Takes item front [] a) :
    Takes (commaSeparated item) front [] [a] := by
  intro depth lexemes shape
  have one : Takes (commaSeparatedUpTo item (lexemes.length + 1)) front [] [a] := by
    rw [← List.append_nil front]
    exact taken.bind ((symbol?_missing (by simp)).bind (.pure [a] []))
  exact one depth lexemes shape

end Parser

namespace Grammar

open SqlEngine.Sql.Parser (Takes)
open OwnForm (Head isWord areWords dotted keyword?_of_isWord keywords_of_areWords)

variable {h : Head} {old new : Ident} {rename towards : Token} {column rest : List Token}

/-- `RENAME [COLUMN] old TO new`, behind its first word. Without `COLUMN`, the old name must not be
one of the words that can stand in its place. -/
theorem renamed_taken (isColumn : areWords ["column"] column ∨ column = [] ∧
      (Token.word old).keyword? ∉ [some "CONSTRAINT", some "TO", some "COLUMN"])
    (isTo : isWord "to" towards) :
    Takes renamed (column ++ [.word old, towards, .word new]) rest (.renameColumn old new) := by
  have spelled : [towards].map Token.keyword? = ["TO"].map some := by
    rw [List.map_singleton, keyword?_of_isWord isTo (by decide)]
    rfl
  have behind : Takes (do
      let before ← Parser.identifier
      Parser.keyword "TO"
      return .renameColumn before (← Parser.identifier))
      ([.word old] ++ ([towards] ++ [.word new])) rest (TableChange.renameColumn old new) := by
    refine (Parser.identifier_taken old _).bind ((Parser.keywords_taken spelled).bind ?_)
    exact (Parser.identifier_taken new rest).map _
  rcases isColumn with isColumn | ⟨rfl, plain⟩
  · obtain ⟨token, _, rfl, -, none⟩ := OwnForm.areWords_cons_iff.mp isColumn
    cases OwnForm.areWords_nil_iff.mp none
    have spelled := keywords_of_areWords isColumn (by decide)
    have other {word : String} (apart : "COLUMN" ≠ word) : token.keyword? ≠ some word := by
      rw [(List.cons.inj spelled).1]
      simpa using apart
    change Takes renamed ([] ++ ([] ++ ([token] ++ [.word old, towards, .word new]))) rest _
    refine (Parser.keyword?_missing ?_).bind ((Parser.keyword?_missing ?_).bind
      ((Parser.keywords?_taken spelled).bind behind))
    · simpa using other (by decide)
    · simpa using other (by decide)
  · simp only [List.mem_cons, List.not_mem_nil, or_false, not_or] at plain
    obtain ⟨notConstraint, notTo, notColumn⟩ := plain
    change Takes renamed ([] ++ ([] ++ ([] ++ [.word old, towards, .word new]))) rest _
    refine (Parser.keyword?_missing ?_).bind ((Parser.keyword?_missing ?_).bind
      ((Parser.keyword?_missing ?_).bind behind))
    · simpa using notConstraint
    · simpa using notTo
    · simpa using notColumn

theorem ifExists_taken (nonempty : h.ids ≠ [])
    (free : ∀ token ∈ rest.head?, token.keyword? ≠ some "EXISTS") :
    Takes ifExists h.guard (h.only ++ (dotted h.ids ++ rest)) (!h.guard.isEmpty) := by
  rcases h.guards with absent | guards
  · rw [absent]
    refine Parser.keywords?_missing ?_
    obtain ⟨id, ids, shape⟩ := List.exists_cons_of_ne_nil nonempty
    rw [shape]
    rcases h.marks with ⟨unmarked, -⟩ | marks
    · rw [unmarked, List.nil_append]
      cases ids with
      | nil => cases rest <;> simp_all [dotted]
      | cons next ids =>
          rw [OwnForm.dotted_cons (List.cons_ne_nil next ids)]
          simp [Token.keyword?]
    · obtain ⟨token, others, marked, isOnly, -⟩ := OwnForm.areWords_cons_iff.mp marks
      have spelled : token.keyword? = some "ONLY" := keyword?_of_isWord isOnly (by decide)
      rw [marked]
      simp [spelled]
  · have guarded : h.guard.isEmpty = false := by
      cases shape : h.guard with
      | nil =>
          rw [shape] at guards
          cases guards
      | cons _ _ => rfl
    rw [guarded]
    exact Parser.keywords?_taken (keywords_of_areWords guards (by decide))

theorem only_taken (nonempty : h.ids ≠ [])
    (plain : h.only = [] → ∀ id ∈ h.ids.head?, (Token.word id).keyword? ≠ some "ONLY") :
    Takes (Parser.keyword? "ONLY") h.only (dotted h.ids ++ rest) (!h.only.isEmpty) := by
  rcases h.marks with ⟨unmarked, -⟩ | marks
  · rw [unmarked]
    refine Parser.keyword?_missing ?_
    obtain ⟨id, ids, shape⟩ := List.exists_cons_of_ne_nil nonempty
    have first := plain unmarked id (by rw [shape]; rfl)
    rw [shape]
    cases ids <;> simpa [dotted] using first
  · have marked : h.only.isEmpty = false := by
      cases shape : h.only with
      | nil =>
          rw [shape] at marks
          cases marks
      | cons _ _ => rfl
    rw [marked]
    exact Parser.keywords?_taken (keywords_of_areWords marks (by decide))

theorem tableChange_rename {g : Grammar} {front : List Token} {change : TableChange}
    (isRename : isWord "rename" rename) (taken : Takes renamed front rest change) :
    Takes (tableChange g) (rename :: front) rest change := by
  have spelled : rename.keyword? = some "RENAME" := keyword?_of_isWord isRename (by decide)
  exact (Parser.oneOf_taken spelled (by decide) _).bind taken

/-- The general grammar takes `ALTER TABLE ... RENAME [COLUMN] old TO new` for a change of the name
of a column, whatever the name is. -/
theorem alterTable_renameColumn (g : Grammar) (nonempty : h.ids ≠ [])
    (plain : h.only = [] → ∀ id ∈ h.ids.head?, (Token.word id).keyword? ≠ some "ONLY")
    (isRename : isWord "rename" rename) (isTo : isWord "to" towards)
    (isColumn : areWords ["column"] column ∨ column = [] ∧
      (Token.word old).keyword? ∉ [some "CONSTRAINT", some "TO", some "COLUMN"]) :
    Takes (alterTable g) (h.guard ++ (h.only ++ (dotted h.ids ++
        rename :: (column ++ [.word old, towards, .word new])))) []
      ⟨h.ids, !h.guard.isEmpty, [.renameColumn old new]⟩ := by
  have spelled : rename.keyword? = some "RENAME" := keyword?_of_isWord isRename (by decide)
  let tail := rename :: (column ++ [.word old, towards, .word new])
  have changes : Takes (Parser.commaSeparated (tableChange g)) tail [] [.renameColumn old new] :=
    Parser.commaSeparated_one (tableChange_rename isRename (renamed_taken isColumn isTo))
  have named : Takes Parser.dotted (dotted h.ids) (tail ++ []) h.ids :=
    Parser.dotted_taken nonempty (Head.dotless_of_isWord isRename)
  have marked : Takes (Parser.keyword? "ONLY") h.only ((dotted h.ids ++ tail) ++ [])
      (!h.only.isEmpty) := by
    rw [List.append_nil]
    exact only_taken nonempty plain
  have guarded : Takes ifExists h.guard ((h.only ++ (dotted h.ids ++ tail)) ++ [])
      (!h.guard.isEmpty) := by
    rw [List.append_nil]
    refine ifExists_taken nonempty ?_
    rintro _ ⟨⟩
    simp [spelled]
  exact guarded.bind (marked.bind (named.bind (changes.map _)))

theorem statementUpTo_alter (g : Grammar) (most depth : Nat) {first : Lexeme}
    {others : List Lexeme} (spelled : first.token.keyword? = some "ALTER") :
    statementUpTo g (most + 1) (depth + 1) (first :: others) =
      (Grammar.alter g depth others).map fun (s, rest) => ((s, false), rest) := by
  obtain ⟨token, place, offset⟩ := first
  cases token with
  | word id =>
      rw [statementUpTo, Parser.nested, Parser.peek_bind]
      simp only [spelled]
      change (Grammar.alter g depth others).bind _ = _
      cases Grammar.alter g depth others <;> rfl
  | _ => cases spelled

/-- A statement that begins with `ALTER TABLE` and goes on as a change of a table does. -/
theorem general_alterTable {lexemes : List Lexeme} {front : List Token} {a : AlterTable}
    (opens : areWords ["alter", "table"] front) (shape : lexemes.map Lexeme.token = front ++ rest)
    (taken : ∀ g, Takes (alterTable g) rest [] a) :
    Batch.general lexemes = .ok (.alterTable a) := by
  obtain ⟨alter, _, rfl, isAlter, opens⟩ := OwnForm.areWords_cons_iff.mp opens
  obtain ⟨table, _, rfl, isTable, none⟩ := OwnForm.areWords_cons_iff.mp opens
  cases OwnForm.areWords_nil_iff.mp none
  have altered : alter.keyword? = some "ALTER" := keyword?_of_isWord isAlter (by decide)
  have spelled : table.keyword? = some "TABLE" := keyword?_of_isWord isTable (by decide)
  obtain ⟨first, others, rfl, rfl, behind⟩ := List.map_eq_cons_iff.mp shape
  have changed : Takes (Grammar.alter (forLength (first :: others).length)) ([table] ++ rest) []
      (.alterTable a) :=
    (Parser.oneOf_taken spelled (by decide) _).bind ((taken _).map Statement.alterTable)
  have whole := changed 49 others (by rw [behind, List.append_nil]; rfl)
  have length : others.length ≤ ([table] ++ rest).length := by
    rw [← List.length_map Lexeme.token, behind]
    exact Nat.le_refl _
  rw [List.drop_eq_nil_of_le length] at whole
  have read : statement (forLength (first :: others).length) maxNesting (first :: others) =
      some (.alterTable a, []) := by
    change (statementUpTo _ (_ + 1) (49 + 1) (first :: others)).bind _ = _
    rw [statementUpTo_alter _ _ _ altered, whole]
    rfl
  rw [Batch.general, read]

end Grammar

namespace Batch

open OwnForm (Head isWord areWords)

variable {h : Head} {old new : Ident} {rename towards : Token} {column : List Token} {q : QName}
  {lexemes : List Lexeme}

theorem general_renameColumn (nonempty : h.ids ≠ [])
    (plain : h.only = [] → ∀ id ∈ h.ids.head?, (Token.word id).keyword? ≠ some "ONLY")
    (isRename : isWord "rename" rename) (isTo : isWord "to" towards)
    (isColumn : areWords ["column"] column ∨ column = [] ∧
      (Token.word old).keyword? ∉ [some "CONSTRAINT", some "TO", some "COLUMN"])
    (shape : lexemes.map Lexeme.token =
      h.toTokens ++ rename :: (column ++ [.word old, towards, .word new])) :
    general lexemes = .ok (.alterTable ⟨h.ids, !h.guard.isEmpty, [.renameColumn old new]⟩) := by
  rw [Head.toTokens, List.append_assoc, List.append_assoc, List.append_assoc] at shape
  exact Grammar.general_alterTable h.opens shape fun g =>
    Grammar.alterTable_renameColumn g nonempty plain isRename isTo isColumn

/-- A column is renamed, unless its name is written as the word `OWNER`: then the statement is taken
for a change of the owner of the table. -/
theorem statement_renameColumn (few : h.ids.length ≤ 2) (named : QName.ofParts h.ids = .ok q)
    (plain : h.only = [] → ∀ id ∈ h.ids.head?, (Token.word id).keyword? ≠ some "ONLY")
    (isRename : isWord "rename" rename) (isTo : isWord "to" towards)
    (isColumn : areWords ["column"] column ∨ column = [] ∧
      (Token.word old).keyword? ∉ [some "CONSTRAINT", some "TO", some "COLUMN"])
    (shape : lexemes.map Lexeme.token =
      h.toTokens ++ rename :: (column ++ [.word old, towards, .word new])) :
    statement lexemes = .ok (if isWord "owner" (.word old) then .alterOwner q
      else .alterTable ⟨h.ids, !h.guard.isEmpty, [.renameColumn old new]⟩) := by
  rw [statement, shape, Head.read_renameColumn few named isRename isTo]
  cases isWord "owner" (.word old) with
  | true => rfl
  | false =>
      exact general_renameColumn (QName.ne_nil_of_ofParts named) plain isRename isTo isColumn shape

end Batch

end Sql

/-- A change of the owner changes nothing; the table has to be there. -/
theorem Define.alterOwner_run (name : QName) (s : Draft) :
    (alterOwner name).run s = ((s.catalog.table name).map fun _ => .skipped "ALTER TABLE", s) := by
  change (liftM (s.catalog.table name) >>= fun _ => pure (Outcome.skipped "ALTER TABLE") :
    Define Outcome).run s = _
  rw [Run.bind_run, Run.lift_run]
  cases s.catalog.table name <;> rfl

/-! ### A column that is called owner -/

namespace Sql.OwnForm

/-- `ALTER TABLE t` -/
def exampleHead : Head where
  opening := [.word (.bare "ALTER"), .word (.bare "TABLE")]
  guard := []
  only := []
  ids := [.bare "t"]
  opens := by decide +kernel
  guards := .inl rfl
  marks := .inl (by decide +kernel)

/-- `ALTER TABLE t RENAME owner TO x` -/
def exampleRename : List Token :=
  exampleHead.toTokens ++ .word (.bare "RENAME") ::
    ([] ++ [.word (.bare "owner"), .word (.bare "TO"), .word (.bare "x")])

/-- A column is renamed, and this is taken for a change of the owner of the table, although what
stands behind the name of the table is not `OWNER TO` and a role. -/
theorem exampleRename_taken :
    read exampleRename = .ok (some (.alterOwner ⟨none, "t"⟩)) ∧
      ∀ (h : Head) (owner towards role : Token), isWord "owner" owner →
        exampleRename ≠ h.toTokens ++ [owner, towards, role] := by
  have named : QName.ofParts exampleHead.ids = .ok ⟨none, "t"⟩ := by
    change Except.ok (ε := SqlError) (QName.mk none (Text.lower "t")) = _
    rw [show Text.lower "t" = "t" by decide +kernel]
  refine ⟨?_, fun h owner towards role isOwner same => ?_⟩
  · refine (exampleHead.read_renameColumn (by decide) named (by decide +kernel)
      (by decide +kernel)).trans ?_
    rw [if_pos (by decide +kernel)]
  have same : (exampleHead.toTokens ++ [.word (.bare "RENAME")]) ++
      [.word (.bare "owner"), .word (.bare "TO"), .word (.bare "x")] =
        h.toTokens ++ [owner, towards, role] := same
  have whole := (List.append_inj' same rfl).1
  have behind : h.guard ++ (h.only ++ dotted h.ids) =
      [.word (.bare "t"), .word (.bare "RENAME")] := by
    change _ = (exampleHead.toTokens ++ [Token.word (.bare "RENAME")]).drop 2
    rw [whole, Head.toTokens, List.drop_left' h.opening_length]
  rcases h.guards with absent | guards
  · rw [absent, List.nil_append] at behind
    rcases h.marks with ⟨unmarked, -⟩ | marks
    · rw [unmarked, List.nil_append] at behind
      match ids : h.ids, behind with
      | _ :: _ :: _, behind => cases behind
    · obtain ⟨only, _, marked, isOnly, -⟩ := areWords_cons_iff.mp marks
      rw [marked] at behind
      rw [(List.cons.inj behind).1] at isOnly
      exact absurd isOnly (by decide +kernel)
  · obtain ⟨first, _, guarded, isIf, -⟩ := areWords_cons_iff.mp guards
    rw [guarded] at behind
    rw [(List.cons.inj behind).1] at isIf
    exact absurd isIf (by decide +kernel)

end Sql.OwnForm

end SqlEngine
