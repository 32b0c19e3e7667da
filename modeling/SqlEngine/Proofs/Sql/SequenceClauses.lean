import SqlEngine.Proofs.Number.Reading
import SqlEngine.Proofs.Sql.OwnerChange
import SqlEngine.Proofs.Storage.Progression

/-!
How the clauses of a sequence are read.

A clause has one of a few forms, told apart by its first words, so the order in which they are tried
does not matter. The forms end where the next clause begins: what stands behind the words of a form
is never taken for more of it. So clauses are read exactly if they are clauses one after the other.
Clauses written out in the usual way are read back, except that the least integer of 64 bits is
written as a minus and digits, and these digits alone are too large.
-/

namespace SqlEngine

namespace Sql

namespace OwnForm

variable {α β : Type} {tokens rest front opening : List Token} {words : List String}

/-! ### Readers and what they take -/

/-- The words that a clause of a sequence begins with. -/
def openers : List String :=
  ["as", "increment", "minvalue", "maxvalue", "no", "cycle", "start", "restart", "cache", "owned"]

/-- Nothing is left, or what is left begins as a clause does. -/
def Resumes (rest : List Token) : Prop :=
  ∀ token ∈ rest.head?, ∃ word ∈ openers, isWord word token

theorem resumes_nil : Resumes [] := nofun

/-- A reader takes the tokens of a grammar off the front, whatever clause stands behind them. -/
structure Reads (m : Reader α) (grammar : List Token → α → Prop) : Prop where
  sound : ∀ {tokens a rest}, m.run tokens = .ok (a, rest) →
    ∃ front, tokens = front ++ rest ∧ grammar front a
  complete : ∀ {front a rest}, grammar front a → Resumes rest →
    m.run (front ++ rest) = .ok (a, rest)

theorem Reads.pure (a : α) : Reads (pure a) fun front b => front = [] ∧ b = a where
  sound ran := by
    cases ran
    exact ⟨[], rfl, rfl, rfl⟩
  complete := by
    rintro _ _ rest ⟨rfl, rfl⟩ -
    rfl

theorem Reads.map {m : Reader α} {grammar : List Token → α → Prop} (reads : Reads m grammar)
    (f : α → β) :
    Reads (m >>= fun a => Pure.pure (f a)) fun front b => ∃ a, grammar front a ∧ b = f a where
  sound ran := by
    obtain ⟨a, left, first, ran⟩ := bind_run_ok ran
    cases ran
    obtain ⟨front, shape, taken⟩ := reads.sound first
    exact ⟨front, shape, a, taken, rfl⟩
  complete := by
    rintro front _ rest ⟨a, taken, rfl⟩ resumes
    rw [bind_of_run (reads.complete taken resumes)]
    rfl

theorem begins_eq_false_of_isWord {word : String} {token : Token} (spelled : isWord word token)
    {other : String} (apart : other ≠ word) : begins (other :: words) (token :: rest) = false := by
  rw [begins, isWord_of_ne spelled apart]
  rfl

/-- What is left is no word other than the ones that clauses begin with. -/
theorem Resumes.begins_eq_false (resumes : Resumes rest) {word : String} (other : word ∉ openers) :
    begins (word :: words) rest = false := by
  cases rest with
  | nil => rfl
  | cons token rest =>
      obtain ⟨opener, member, spelled⟩ := resumes token rfl
      exact begins_eq_false_of_isWord spelled fun same => other (same ▸ member)

theorem Resumes.exists_word (resumes : Resumes rest) :
    rest = [] ∨ ∃ id later, rest = .word id :: later := by
  cases rest with
  | nil => exact .inl rfl
  | cons token rest =>
      obtain ⟨opener, -, spelled⟩ := resumes token rfl
      cases token with
      | word id => exact .inr ⟨id, rest, rfl⟩
      | _ => cases spelled

theorem Resumes.dotless (resumes : Resumes rest) : rest.head? ≠ some (.symbol ".") := by
  obtain rfl | ⟨id, later, rfl⟩ := resumes.exists_word <;> nofun

theorem Resumes.beginsNumber (resumes : Resumes rest) : beginsNumber rest = false := by
  obtain rfl | ⟨id, later, rfl⟩ := resumes.exists_word <;> rfl

/-! ### What stands behind the first words -/

theorem identifier_reads :
    Reads identifier fun front name => ∃ id, front = [.word id] ∧ id.name = name where
  sound ran := by
    obtain ⟨id, rfl, named⟩ := identifier_ok_iff.mp ran
    exact ⟨[.word id], rfl, id, rfl, named⟩
  complete := by
    rintro _ _ rest ⟨id, rfl, named⟩ -
    exact identifier_ok_iff.mpr ⟨id, rfl, named⟩

/-- An integer: digits of 64 bits, with an optional sign in front of them. -/
inductive IsNumeral : List Token → Int → Prop
  | plain {digits : String} {long : Bool} {n : Int} : Numeral.int64? digits = some n →
      IsNumeral [.number digits long] n
  | plus {digits : String} {long : Bool} {n : Int} : Numeral.int64? digits = some n →
      IsNumeral [.symbol "+", .number digits long] n
  | minus {digits : String} {long : Bool} {n : Int} : Numeral.int64? digits = some n →
      IsNumeral [.symbol "-", .number digits long] (-n)

/-- The digits of an integer, once its sign is taken off. -/
def magnitude (negative : Bool) : Reader Int := do
  match ← get with
  | .number digits _ :: rest =>
    set rest
    match Numeral.int64? digits with
    | some value => return if negative then -value else value
    | none => throw (.query (.invalidBigint digits))
  | _ => expected "number"

theorem integer_eq : integer = sign >>= magnitude := rfl

theorem magnitude_number (negative : Bool) {digits : String} {long : Bool} :
    (magnitude negative).run (.number digits long :: rest) = match Numeral.int64? digits with
      | some n => .ok (if negative then -n else n, rest)
      | none => .error (.query (.invalidBigint digits)) := by
  change (match Numeral.int64? digits with
    | some value => Pure.pure (if negative then -value else value)
    | none => throw (.query (.invalidBigint digits)) : Reader Int).run rest = _
  cases Numeral.int64? digits <;> rfl

theorem magnitude_ok_iff {negative : Bool} {i : Int} :
    (magnitude negative).run tokens = .ok (i, rest) ↔ ∃ digits long n,
      tokens = .number digits long :: rest ∧ Numeral.int64? digits = some n ∧
        i = if negative then -n else n := by
  constructor
  · intro ran
    cases tokens with
    | nil => cases ran
    | cons token others =>
        cases token with
        | number digits long =>
            rw [magnitude_number] at ran
            cases read : Numeral.int64? digits with
            | none =>
                rw [read] at ran
                cases ran
            | some n =>
                rw [read] at ran
                cases ran
                exact ⟨digits, long, n, rfl, read, rfl⟩
        | _ => cases ran
  · rintro ⟨digits, long, n, rfl, read, rfl⟩
    rw [magnitude_number, read]

/-- A sign is taken off, or there is none. -/
theorem sign_ok {negative : Bool} (ran : sign.run tokens = .ok (negative, rest)) :
    tokens = .symbol "-" :: rest ∧ negative = true ∨
      (tokens = .symbol "+" :: rest ∨ tokens = rest) ∧ negative = false := by
  have got : (get : Reader (List Token)).run tokens = .ok (tokens, tokens) := rfl
  rw [sign, bind_of_run got] at ran
  split at ran <;> cases ran
  · exact .inl ⟨rfl, rfl⟩
  · exact .inr ⟨.inl rfl, rfl⟩
  · exact .inr ⟨.inr rfl, rfl⟩

theorem integer_reads : Reads integer IsNumeral where
  sound ran := by
    obtain ⟨negative, left, signed, ran⟩ := bind_run_ok ran
    obtain ⟨digits, long, n, rfl, read, rfl⟩ := magnitude_ok_iff.mp ran
    obtain ⟨rfl, rfl⟩ | ⟨rfl | rfl, rfl⟩ := sign_ok signed
    · exact ⟨_, rfl, .minus read⟩
    · exact ⟨_, rfl, .plus read⟩
    · exact ⟨_, rfl, .plain read⟩
  complete := by
    rintro _ n rest numeral -
    cases numeral with
    | @plain digits long n read => exact magnitude_ok_iff.mpr ⟨digits, long, n, rfl, read, rfl⟩
    | @plus digits long n read => exact magnitude_ok_iff.mpr ⟨digits, long, n, rfl, read, rfl⟩
    | @minus digits long n read => exact magnitude_ok_iff.mpr ⟨digits, long, n, rfl, read, rfl⟩

theorem IsNumeral.beginsNumber {n : Int} (numeral : IsNumeral front n) (rest : List Token) :
    beginsNumber (front ++ rest) := by
  cases numeral <;> rfl

theorem begins_eq_false_of_beginsNumber {word : String} (number : beginsNumber tokens) :
    begins (word :: words) tokens = false := by
  cases tokens with
  | nil => rfl
  | cons token rest =>
      cases token with
      | word => cases number
      | _ => rfl

/-- A number, with a word in front of it or not. -/
def IsMarked (word : String) (front : List Token) (n : Int) : Prop :=
  ∃ mark number, front = mark ++ number ∧ (mark = [] ∨ areWords [word] mark) ∧ IsNumeral number n

theorem IsMarked.append_eq {word : String} {n : Int} (marked : IsMarked word front n)
    (rest : List Token) :
    ∃ number, IsNumeral number n ∧ past [word] (front ++ rest) = number ++ rest := by
  obtain ⟨mark, number, rfl, marks, numeral⟩ := marked
  refine ⟨number, numeral, ?_⟩
  rw [List.append_assoc]
  rcases marks with rfl | are
  · exact past_of_begins_eq_false (begins_eq_false_of_beginsNumber (numeral.beginsNumber rest))
  · exact past_append are

/-- A number behind the place where a word may stand. -/
theorem isMarked_of_past {word : String} {n : Int} {number : List Token}
    (shape : past [word] tokens = number ++ rest) (numeral : IsNumeral number n) :
    ∃ front, tokens = front ++ rest ∧ IsMarked word front n := by
  obtain ⟨mark, whole, marks⟩ := append_past [word] tokens
  refine ⟨mark ++ number, ?_, mark, number, rfl, marks.imp_left And.left, numeral⟩
  rw [List.append_assoc, ← shape, ← whole]

/-- Reads a number behind the place where a word may stand. -/
def behind (word : String) (f : Int → α) : Reader α := do
  let _ ← word? word
  return f (← integer)

theorem behind_run (word : String) (f : Int → α) (tokens : List Token) :
    (behind word f).run tokens =
      (integer >>= fun n => Pure.pure (f n) : Reader α).run (past [word] tokens) := by
  rw [behind, word?, bind_of_run (words?_run _ _)]

theorem behind_reads (word : String) (f : Int → α) :
    Reads (behind word f) fun front a => ∃ n, IsMarked word front n ∧ a = f n where
  sound ran := by
    rw [behind_run] at ran
    obtain ⟨number, shape, n, numeral, rfl⟩ := (integer_reads.map f).sound ran
    obtain ⟨front, whole, marked⟩ := isMarked_of_past shape numeral
    exact ⟨front, whole, n, marked, rfl⟩
  complete := by
    rintro front _ rest ⟨n, marked, rfl⟩ resumes
    obtain ⟨number, numeral, left⟩ := marked.append_eq rest
    rw [behind_run, left]
    exact (integer_reads.map f).complete ⟨n, numeral, rfl⟩ resumes

/-- What stands behind the word `RESTART`. -/
def restarting : Reader SequenceClause := do
  let marked ← word? "with"
  if marked || beginsNumber (← get) then return .restart (some (← integer))
  else return .restart none

theorem restarting_run : restarting.run tokens =
    (if begins ["with"] tokens || beginsNumber (past ["with"] tokens) then
      integer >>= fun n => Pure.pure (.restart (some n))
    else Pure.pure (.restart none) : Reader SequenceClause).run (past ["with"] tokens) := by
  rw [restarting, word?, bind_of_run (words?_run _ _)]
  rfl

/-- Without a number there is no `WITH` either. -/
theorem restarting_reads : Reads restarting fun front clause =>
    front = [] ∧ clause = .restart none ∨
      ∃ n, IsMarked "with" front n ∧ clause = .restart (some n) where
  sound ran := by
    rw [restarting_run] at ran
    split at ran
    · obtain ⟨n, left, read, ran⟩ := bind_run_ok ran
      cases ran
      obtain ⟨number, shape, numeral⟩ := integer_reads.sound read
      obtain ⟨front, whole, marked⟩ := isMarked_of_past shape numeral
      exact ⟨front, whole, .inr ⟨n, marked, rfl⟩⟩
    · rename_i bare
      cases ran
      rw [Bool.or_eq_true, not_or] at bare
      exact ⟨[], (past_of_begins_eq_false (Bool.eq_false_iff.mpr bare.1)).symm, .inl ⟨rfl, rfl⟩⟩
  complete := by
    rintro front _ rest (⟨rfl, rfl⟩ | ⟨n, marked, rfl⟩) resumes
    · have bare : begins ["with"] rest = false := resumes.begins_eq_false (by decide)
      rw [List.nil_append, restarting_run, past_of_begins_eq_false bare, bare,
        resumes.beginsNumber]
      rfl
    · obtain ⟨number, numeral, left⟩ := marked.append_eq rest
      rw [restarting_run, left, numeral.beginsNumber, Bool.or_true, if_pos rfl,
        bind_of_run (integer_reads.complete numeral resumes)]
      rfl

/-- What stands behind the words `OWNED BY`. -/
def owning : Reader SequenceClause := do
  if ← word? "none" then return .ownedBy none
  else return .ownedBy (some (".".intercalate (← parts)))

theorem owning_run : owning.run tokens = (if begins ["none"] tokens then
      Pure.pure (.ownedBy none)
    else parts >>= fun names => Pure.pure (.ownedBy (some (".".intercalate names))) :
      Reader SequenceClause).run (past ["none"] tokens) := by
  rw [owning, word?, bind_of_run (words?_run _ _)]

theorem parts_ok_iff {names : List String} : parts.run tokens = .ok (names, rest) ↔
    ∃ ids, ids ≠ [] ∧ tokens = dotted ids ++ rest ∧ rest.head? ≠ some (.symbol ".") ∧
      ids.map Ident.name = names :=
  partsUpTo_ok_iff (Nat.lt_succ_self tokens.length)

theorem begins_dotted {word : String} {id : Ident} {ids : List Ident} :
    begins [word] (dotted (id :: ids) ++ rest) = isWord word (.word id) := by
  cases ids <;> simp [dotted, begins]

/-- The bare word `NONE` is not the name of an owner. -/
theorem owning_reads : Reads owning fun front clause =>
    areWords ["none"] front ∧ clause = .ownedBy none ∨
      ∃ id ids, isWord "none" (.word id) = false ∧ front = dotted (id :: ids) ∧
        clause = .ownedBy (some (".".intercalate ((id :: ids).map Ident.name))) where
  sound := by
    intro tokens clause rest ran
    rw [owning_run] at ran
    split at ran
    · rename_i there
      cases ran
      refine ⟨tokens.take 1, ?_, .inl ⟨areWords_take there, rfl⟩⟩
      rw [past, if_pos there]
      exact (List.take_append_drop 1 tokens).symm
    · rename_i other
      rw [past_of_begins_eq_false (Bool.eq_false_iff.mpr other)] at ran
      obtain ⟨names, left, read, ran⟩ := bind_run_ok ran
      cases ran
      obtain ⟨ids, nonempty, rfl, -, rfl⟩ := parts_ok_iff.mp read
      obtain ⟨id, ids, rfl⟩ := List.exists_cons_of_ne_nil nonempty
      rw [begins_dotted] at other
      exact ⟨_, rfl, .inr ⟨id, ids, Bool.eq_false_iff.mpr other, rfl, rfl⟩⟩
  complete := by
    rintro front _ rest (⟨are, rfl⟩ | ⟨id, ids, other, rfl, rfl⟩) resumes
    · rw [owning_run, past_append are, begins_append_of_areWords are]
      rfl
    · have missing : begins ["none"] (dotted (id :: ids) ++ rest) = false :=
        begins_dotted.trans other
      have read := parts_ok_iff.mpr
        ⟨id :: ids, List.cons_ne_nil id ids, rfl, resumes.dotless, rfl⟩
      rw [owning_run, missing, past_of_begins_eq_false missing, if_neg Bool.false_ne_true,
        bind_of_run read]
      rfl

/-! ### Forms -/

/-- A form that a clause may have: words, and what stands behind them. -/
structure Form where
  words : List String
  reader : Reader SequenceClause
  grammar : List Token → SequenceClause → Prop
  reads : Reads reader grammar

namespace Form

def as : Form := ⟨["as"], _, _, identifier_reads.map .as⟩

def increment : Form := ⟨["increment"], _, _, behind_reads "by" .increment⟩

def minValue : Form := ⟨["minvalue"], _, _, integer_reads.map fun n => .minValue (some n)⟩

def maxValue : Form := ⟨["maxvalue"], _, _, integer_reads.map fun n => .maxValue (some n)⟩

def noMinValue : Form := ⟨["no", "minvalue"], _, _, .pure (.minValue none)⟩

def noMaxValue : Form := ⟨["no", "maxvalue"], _, _, .pure (.maxValue none)⟩

def noCycle : Form := ⟨["no", "cycle"], _, _, .pure (.cycle false)⟩

def cycle : Form := ⟨["cycle"], _, _, .pure (.cycle true)⟩

def start : Form := ⟨["start"], _, _, behind_reads "with" .start⟩

def restart : Form := ⟨["restart"], _, _, restarting_reads⟩

def cache : Form := ⟨["cache"], _, _, integer_reads.map .cache⟩

def ownedBy : Form := ⟨["owned", "by"], _, _, owning_reads⟩

/-- The forms in the order in which they are tried. -/
def all : List Form :=
  [as, increment, minValue, maxValue, noMinValue, noMaxValue, noCycle, cycle, start, restart, cache,
    ownedBy]

/-- A clause in this form. -/
def Takes (form : Form) (front : List Token) (clause : SequenceClause) : Prop :=
  ∃ opening body, front = opening ++ body ∧ areWords form.words opening ∧ form.grammar body clause

end Form

/-- Takes the first form whose words are there. -/
def anyOf : List Form → Reader SequenceClause
  | [] => expected "sequence option"
  | form :: others => do if ← words? form.words then form.reader else anyOf others

theorem sequenceClause_eq : sequenceClause = anyOf Form.all := rfl

theorem anyOf_run (form : Form) (others : List Form) (tokens : List Token) :
    (anyOf (form :: others)).run tokens =
      if begins form.words tokens then form.reader.run (past form.words tokens)
      else (anyOf others).run tokens := by
  rw [anyOf, bind_of_run (words?_run _ _)]
  split
  · rfl
  · rename_i missing
    rw [past_of_begins_eq_false (Bool.eq_false_iff.mpr missing)]

/-- Whether no tokens can begin with the ones and with the others. -/
def differ : List String → List String → Bool
  | first :: firsts, second :: seconds => first != second || differ firsts seconds
  | _, _ => false

theorem differ_eq_false : ∀ {first second : List String} {tokens : List Token},
    begins first tokens → begins second tokens → differ first second = false
  | [], _, _, _, _ => rfl
  | _ :: _, [], _, _, _ => rfl
  | first :: firsts, second :: seconds, tokens, one, other => by
      obtain ⟨token, rest, rfl, spelled, one⟩ := begins_cons_iff.mp one
      rw [begins, Bool.and_eq_true] at other
      rw [differ, eq_of_isWord spelled other.1, differ_eq_false one other.2]
      simp

/-- Where words of no two forms can be there at once, the order of the forms does not matter. -/
theorem anyOf_run_of_mem {form : Form} (are : areWords form.words opening) :
    ∀ {forms : List Form}, (forms.map Form.words).Pairwise (differ · ·) → form ∈ forms →
      (anyOf forms).run (opening ++ rest) = form.reader.run rest
  | first :: forms, apart, member => by
      rw [List.map_cons, List.pairwise_cons] at apart
      rw [anyOf_run]
      rcases List.mem_cons.mp member with rfl | later
      · rw [begins_append_of_areWords are, past_append are]
        rfl
      · have missing : begins first.words (opening ++ rest) = false := by
          refine Bool.eq_false_iff.mpr fun there => ?_
          have here : begins form.words (opening ++ rest) := begins_append_of_areWords are
          have different := apart.1 _ (List.mem_map_of_mem later)
          rw [differ_eq_false there here] at different
          cases different
        rw [missing, if_neg Bool.false_ne_true, anyOf_run_of_mem are apart.2 later]

theorem exists_of_anyOf_ok {clause : SequenceClause} : ∀ {forms : List Form},
    (anyOf forms).run tokens = .ok (clause, rest) →
      ∃ form ∈ forms, ∃ front, tokens = front ++ rest ∧ form.Takes front clause
  | [], ran => by
      change (expected "sequence option" : Reader SequenceClause).run tokens = _ at ran
      cases tokens <;> cases ran
  | form :: forms, ran => by
      rw [anyOf_run] at ran
      split at ran
      · rename_i there
        obtain ⟨body, shape, taken⟩ := form.reads.sound ran
        refine ⟨form, List.mem_cons_self, tokens.take form.words.length ++ body, ?_, _, body, rfl,
          areWords_take there, taken⟩
        rw [List.append_assoc, ← shape, past, if_pos there, List.take_append_drop]
      · obtain ⟨found, member, taken⟩ := exists_of_anyOf_ok ran
        exact ⟨found, List.mem_cons_of_mem form member, taken⟩

theorem forms_differ : (Form.all.map Form.words).Pairwise (differ · ·) := by decide

/-- The tokens of a clause. -/
def IsClause (front : List Token) (clause : SequenceClause) : Prop :=
  ∃ form ∈ Form.all, form.Takes front clause

theorem sequenceClause_reads : Reads sequenceClause IsClause where
  sound ran := by
    obtain ⟨form, member, front, shape, taken⟩ := exists_of_anyOf_ok (sequenceClause_eq ▸ ran)
    exact ⟨front, shape, form, member, taken⟩
  complete := by
    rintro _ clause rest ⟨form, member, opening, body, rfl, are, taken⟩ resumes
    rw [sequenceClause_eq, List.append_assoc, anyOf_run_of_mem are forms_differ member]
    exact form.reads.complete taken resumes

theorem Form.exists_word {form : Form} (listed : form ∈ Form.all)
    (opens : areWords form.words opening) :
    ∃ token later, opening = token :: later ∧ ∃ word ∈ openers, isWord word token := by
  have each : ∀ words ∈ Form.all.map Form.words, words.head?.any (openers.contains ·) := by decide
  have first := each _ (List.mem_map_of_mem listed)
  cases words : form.words with
  | nil =>
      rw [words] at first
      cases first
  | cons word words' =>
      rw [words] at first opens
      obtain ⟨token, later, rfl, spelled, -⟩ := areWords_cons_iff.mp opens
      exact ⟨token, later, rfl, word, List.contains_iff_mem.mp first, spelled⟩

theorem IsClause.ne_nil {clause : SequenceClause} (taken : IsClause front clause) : front ≠ [] := by
  obtain ⟨form, listed, opening, body, rfl, opens, -⟩ := taken
  obtain ⟨token, later, rfl, -⟩ := form.exists_word listed opens
  exact List.cons_ne_nil token _

theorem IsClause.resumes {clause : SequenceClause} (taken : IsClause front clause)
    (rest : List Token) : Resumes (front ++ rest) := by
  obtain ⟨form, listed, opening, body, rfl, opens, -⟩ := taken
  obtain ⟨token, later, rfl, opener⟩ := form.exists_word listed opens
  rintro _ ⟨⟩
  exact opener

/-! ### Lists of clauses -/

/-- The tokens of clauses, one after the other. -/
inductive Clauses : List Token → List SequenceClause → Prop
  | nil : Clauses [] []
  | cons {front rest : List Token} {clause : SequenceClause} {clauses : List SequenceClause} :
      IsClause front clause → Clauses rest clauses → Clauses (front ++ rest) (clause :: clauses)

theorem Clauses.resumes {clauses : List SequenceClause} (taken : Clauses tokens clauses) :
    Resumes tokens := by
  cases taken with
  | nil => exact resumes_nil
  | cons first later => exact first.resumes _

theorem sequenceClausesUpTo_run (most : Nat) (nonempty : tokens ≠ []) :
    (sequenceClausesUpTo (most + 1)).run tokens = (sequenceClause >>= fun clause =>
      sequenceClausesUpTo most >>= fun clauses => Pure.pure (clause :: clauses)).run tokens := by
  obtain ⟨token, rest, rfl⟩ := List.exists_cons_of_ne_nil nonempty
  rfl

theorem sequenceClausesUpTo_of_clauses {clauses : List SequenceClause}
    (taken : Clauses tokens clauses) : ∀ {most : Nat}, tokens.length < most →
      (sequenceClausesUpTo most).run tokens = .ok (clauses, []) := by
  induction taken with
  | nil =>
      rintro (_ | most) enough
      · cases enough
      · rfl
  | @cons front rest clause clauses first later ih =>
      rintro (_ | most) enough
      · cases enough
      · have shorter : rest.length < most := by
          have taken := List.length_pos_iff.mpr first.ne_nil
          rw [List.length_append] at enough
          omega
        rw [sequenceClausesUpTo_run most (List.append_ne_nil_of_left_ne_nil first.ne_nil rest),
          bind_of_run (sequenceClause_reads.complete first later.resumes), bind_of_run (ih shorter)]
        rfl

theorem clauses_of_sequenceClausesUpTo {clauses : List SequenceClause} :
    ∀ {most : Nat} {tokens : List Token}, tokens.length < most →
      (sequenceClausesUpTo most).run tokens = .ok (clauses, rest) →
        rest = [] ∧ Clauses tokens clauses := by
  intro most
  induction most generalizing clauses rest with
  | zero => nofun
  | succ most ih =>
      intro tokens enough ran
      by_cases empty : tokens = []
      · subst empty
        cases ran
        exact ⟨rfl, .nil⟩
      · rw [sequenceClausesUpTo_run most empty] at ran
        obtain ⟨clause, left, first, ran⟩ := bind_run_ok ran
        obtain ⟨others, last, later, ran⟩ := bind_run_ok ran
        cases ran
        obtain ⟨front, rfl, taken⟩ := sequenceClause_reads.sound first
        have shorter : left.length < most := by
          have some := List.length_pos_iff.mpr taken.ne_nil
          rw [List.length_append] at enough
          omega
        obtain ⟨rfl, following⟩ := ih shorter later
        exact ⟨rfl, .cons taken following⟩

/-- Clauses are read up to the end, each as what it says. -/
theorem sequenceClauses_ok_iff {clauses : List SequenceClause} :
    sequenceClauses.run tokens = .ok (clauses, rest) ↔ rest = [] ∧ Clauses tokens clauses := by
  constructor
  · exact clauses_of_sequenceClausesUpTo (Nat.lt_succ_self tokens.length)
  · rintro ⟨rfl, taken⟩
    exact sequenceClausesUpTo_of_clauses taken (Nat.lt_succ_self tokens.length)

/-! ### Clauses written out -/

def keyWord (word : String) : Token := .word (.bare word)

/-- A name in quotes, which stands for itself. -/
def quotedName (name : String) : Ident := ⟨name, some '"'⟩

/-- An integer in digits, with a minus in front of them if it is negative. -/
def integerTokens (n : Int) : List Token :=
  if n < 0 then [.symbol "-", .number (toString (-n)) false] else [.number (toString n) false]

/-- The parts of the name of an owner, which has dots between them. -/
def ownerIds (owner : String) : List Ident :=
  (owner.toList.splitOn '.').map fun part => quotedName (String.ofList part)

def clauseTokens : SequenceClause → List Token
  | .as type => [keyWord "AS", .word (quotedName type)]
  | .increment n => keyWord "INCREMENT" :: keyWord "BY" :: integerTokens n
  | .minValue (some n) => keyWord "MINVALUE" :: integerTokens n
  | .minValue none => [keyWord "NO", keyWord "MINVALUE"]
  | .maxValue (some n) => keyWord "MAXVALUE" :: integerTokens n
  | .maxValue none => [keyWord "NO", keyWord "MAXVALUE"]
  | .start n => keyWord "START" :: keyWord "WITH" :: integerTokens n
  | .restart (some n) => keyWord "RESTART" :: keyWord "WITH" :: integerTokens n
  | .restart none => [keyWord "RESTART"]
  | .cache n => keyWord "CACHE" :: integerTokens n
  | .cycle true => [keyWord "CYCLE"]
  | .cycle false => [keyWord "NO", keyWord "CYCLE"]
  | .ownedBy (some owner) => keyWord "OWNED" :: keyWord "BY" :: dotted (ownerIds owner)
  | .ownedBy none => [keyWord "OWNED", keyWord "BY", keyWord "NONE"]

theorem intercalate_ownerIds (owner : String) :
    ".".intercalate ((ownerIds owner).map Ident.name) = owner := by
  have names : (ownerIds owner).map (String.toList ∘ Ident.name) = owner.toList.splitOn '.' := by
    rw [ownerIds, List.map_map]
    refine (List.map_congr_left fun part _ => ?_).trans (List.map_id _)
    exact String.toList_ofList
  rw [← String.toList_inj, String.toList_intercalate, List.map_map, names]
  exact List.intercalate_splitOn '.'

theorem exists_ownerIds (owner : String) :
    ∃ name ids, ownerIds owner = quotedName name :: ids := by
  obtain ⟨part, parts, shape⟩ :=
    List.exists_cons_of_ne_nil (List.splitOn_ne_nil '.' owner.toList)
  exact ⟨String.ofList part, _, by rw [ownerIds, shape, List.map_cons]⟩

/-- An integer of 64 bits that has an opposite of 64 bits. -/
def HasOpposite (n : Int) : Prop := Numeral.fitsInt64 n ∧ n ≠ Numeral.minInt64

theorem isNumeral_integerTokens {n : Int} (small : HasOpposite n) :
    IsNumeral (integerTokens n) n := by
  obtain ⟨fits, other⟩ := small
  unfold integerTokens
  split
  · have opposite : Numeral.fitsInt64 (-n) := by
      simp only [Numeral.fitsInt64, Bool.and_eq_true, decide_eq_true_eq] at fits ⊢
      rw [Numeral.minInt64, Numeral.maxInt64] at *
      omega
    have read : IsNumeral [.symbol "-", .number (toString (-n)) false] (- -n) :=
      .minus (Numeral.int64?_toString opposite)
    rwa [Int.neg_neg] at read
  · exact .plain (Numeral.int64?_toString fits)

/-- The digits of the least integer are those of a number that does not have 64 bits. -/
def tooLarge : SqlError := .query (.invalidBigint "9223372036854775808")

theorem integer_least (rest : List Token) :
    integer.run (integerTokens Numeral.minInt64 ++ rest) = .error tooLarge := by
  have shape : integerTokens Numeral.minInt64 =
      [.symbol "-", .number "9223372036854775808" false] := by decide +kernel
  have signed : sign.run (.symbol "-" :: .number "9223372036854775808" false :: rest) =
      .ok (true, .number "9223372036854775808" false :: rest) := rfl
  have refused : Numeral.int64? "9223372036854775808" = none := by decide +kernel
  rw [shape, integer_eq, List.cons_append, List.singleton_append, bind_of_run signed,
    magnitude_number, refused]
  rfl

theorem bind_of_error {m : Reader α} {f : α → Reader β} {e : SqlError}
    (failed : m.run tokens = .error e) : (m >>= f).run tokens = .error e := by
  rw [StateT.run_bind, failed]
  rfl

/-- Behind the words of the form stands what the clause is read from, if its numbers can be read. -/
structure Form.Writes (form : Form) (opening body : List Token) (clause : SequenceClause) :
    Prop where
  opens : areWords form.words opening
  takes : (∀ n ∈ clause.numbers, HasOpposite n) → form.grammar body clause
  fails : Numeral.minInt64 ∈ clause.numbers →
    ∀ rest, form.reader.run (body ++ rest) = .error tooLarge

section Writes

variable {body : List Token} {n : Int} {f : Int → SequenceClause} {word : String} {token : Token}

theorem Form.writes_plain {form : Form} {clause : SequenceClause}
    (opens : areWords form.words opening) (takes : form.grammar body clause)
    (numberless : clause.numbers = []) : form.Writes opening body clause :=
  ⟨opens, fun _ => takes, fun member => by rw [numberless] at member; cases member⟩

theorem Form.writes_integer (opens : areWords words opening) (holds : (f n).numbers = [n]) :
    Form.Writes ⟨words, _, _, integer_reads.map f⟩ opening (integerTokens n) (f n) where
  opens := opens
  takes small := ⟨n, isNumeral_integerTokens (small n (by simp [holds])), rfl⟩
  fails member rest := by
    rw [holds, List.mem_singleton] at member
    exact member ▸ bind_of_error (integer_least rest)

theorem isMarked_integerTokens (spelled : isWord word token) (small : HasOpposite n) :
    IsMarked word (token :: integerTokens n) n :=
  ⟨[token], integerTokens n, rfl, .inr (by simp [areWords, begins, spelled]),
    isNumeral_integerTokens small⟩

theorem past_token (spelled : isWord word token) : past [word] (token :: rest) = rest := by
  simp [past, begins, spelled]

theorem Form.writes_marked (opens : areWords words opening) (spelled : isWord word token)
    (holds : (f n).numbers = [n]) : Form.Writes ⟨words, _, _, behind_reads word f⟩ opening
      (token :: integerTokens n) (f n) where
  opens := opens
  takes small := ⟨n, isMarked_integerTokens spelled (small n (by simp [holds])), rfl⟩
  fails member rest := by
    rw [holds, List.mem_singleton] at member
    change (behind word f).run _ = _
    rw [← member, behind_run, List.cons_append, past_token spelled]
    exact bind_of_error (integer_least rest)

theorem Form.writes_restart : Form.restart.Writes [keyWord "RESTART"]
    (keyWord "WITH" :: integerTokens n) (.restart (some n)) where
  opens := by decide +kernel
  takes small := by
    have marked : IsMarked "with" (keyWord "WITH" :: integerTokens n) n :=
      isMarked_integerTokens (by decide +kernel) (small n (List.mem_singleton_self n))
    exact .inr ⟨n, marked, rfl⟩
  fails member rest := by
    have spelled : isWord "with" (keyWord "WITH") := by decide +kernel
    have there {rest : List Token} : begins ["with"] (keyWord "WITH" :: rest) := by
      rw [begins, spelled]
      rfl
    obtain rfl := List.mem_singleton.mp member
    change restarting.run _ = _
    rw [restarting_run, List.cons_append, there, past_token spelled]
    exact bind_of_error (integer_least rest)

end Writes

theorem exists_writes (clause : SequenceClause) : ∃ form ∈ Form.all, ∃ opening body,
    clauseTokens clause = opening ++ body ∧ form.Writes opening body clause := by
  cases clause with
  | as type =>
      exact ⟨.as, by simp [Form.all], [keyWord "AS"], _, rfl,
        Form.writes_plain (by decide +kernel) ⟨type, ⟨quotedName type, rfl, rfl⟩, rfl⟩ rfl⟩
  | increment n =>
      exact ⟨.increment, by simp [Form.all], [keyWord "INCREMENT"], _, rfl,
        Form.writes_marked (by decide +kernel) (by decide +kernel) rfl⟩
  | minValue v =>
      cases v with
      | none =>
          exact ⟨.noMinValue, by simp [Form.all], [keyWord "NO", keyWord "MINVALUE"], [], rfl,
            Form.writes_plain (by decide +kernel) ⟨rfl, rfl⟩ rfl⟩
      | some n =>
          exact ⟨.minValue, by simp [Form.all], [keyWord "MINVALUE"], _, rfl,
            Form.writes_integer (by decide +kernel) rfl⟩
  | maxValue v =>
      cases v with
      | none =>
          exact ⟨.noMaxValue, by simp [Form.all], [keyWord "NO", keyWord "MAXVALUE"], [], rfl,
            Form.writes_plain (by decide +kernel) ⟨rfl, rfl⟩ rfl⟩
      | some n =>
          exact ⟨.maxValue, by simp [Form.all], [keyWord "MAXVALUE"], _, rfl,
            Form.writes_integer (by decide +kernel) rfl⟩
  | start n =>
      exact ⟨.start, by simp [Form.all], [keyWord "START"], _, rfl,
        Form.writes_marked (by decide +kernel) (by decide +kernel) rfl⟩
  | restart v =>
      cases v with
      | none =>
          exact ⟨.restart, by simp [Form.all], [keyWord "RESTART"], [], rfl,
            Form.writes_plain (by decide +kernel) (.inl ⟨rfl, rfl⟩) rfl⟩
      | some n => exact ⟨.restart, by simp [Form.all], _, _, rfl, Form.writes_restart⟩
  | cache n =>
      exact ⟨.cache, by simp [Form.all], [keyWord "CACHE"], _, rfl,
        Form.writes_integer (by decide +kernel) rfl⟩
  | cycle on =>
      cases on with
      | false =>
          exact ⟨.noCycle, by simp [Form.all], [keyWord "NO", keyWord "CYCLE"], [], rfl,
            Form.writes_plain (by decide +kernel) ⟨rfl, rfl⟩ rfl⟩
      | true =>
          exact ⟨.cycle, by simp [Form.all], [keyWord "CYCLE"], [], rfl,
            Form.writes_plain (by decide +kernel) ⟨rfl, rfl⟩ rfl⟩
  | ownedBy column =>
      have opens : areWords ["owned", "by"] [keyWord "OWNED", keyWord "BY"] := by decide +kernel
      cases column with
      | none =>
          exact ⟨.ownedBy, by simp [Form.all], _, [keyWord "NONE"], rfl,
            Form.writes_plain opens (.inl ⟨by decide +kernel, rfl⟩) rfl⟩
      | some owner =>
          obtain ⟨name, ids, shape⟩ := exists_ownerIds owner
          refine ⟨.ownedBy, by simp [Form.all], _, dotted (ownerIds owner), rfl,
            Form.writes_plain opens (.inr ⟨quotedName name, ids, rfl, ?_, ?_⟩) rfl⟩
          · rw [shape]
          · rw [← shape, intercalate_ownerIds]

theorem isClause_clauseTokens {clause : SequenceClause}
    (small : ∀ n ∈ clause.numbers, HasOpposite n) : IsClause (clauseTokens clause) clause := by
  obtain ⟨form, listed, opening, body, shape, writes⟩ := exists_writes clause
  exact ⟨form, listed, opening, body, shape, writes.opens, writes.takes small⟩

theorem resumes_clauseTokens (clause : SequenceClause) (rest : List Token) :
    Resumes (clauseTokens clause ++ rest) := by
  obtain ⟨form, listed, opening, body, shape, writes⟩ := exists_writes clause
  obtain ⟨token, later, rfl, opener⟩ := form.exists_word listed writes.opens
  rw [shape]
  rintro _ ⟨⟩
  exact opener

theorem resumes_flatMap (clauses : List SequenceClause) :
    Resumes (clauses.flatMap clauseTokens) := by
  cases clauses with
  | nil => exact resumes_nil
  | cons clause clauses => exact resumes_clauseTokens clause _

theorem sequenceClause_least {clause : SequenceClause}
    (least : Numeral.minInt64 ∈ clause.numbers) (rest : List Token) :
    sequenceClause.run (clauseTokens clause ++ rest) = .error tooLarge := by
  obtain ⟨form, listed, opening, body, shape, writes⟩ := exists_writes clause
  rw [shape, List.append_assoc, sequenceClause_eq,
    anyOf_run_of_mem writes.opens forms_differ listed]
  exact writes.fails least rest

section Written

variable {clauses : List SequenceClause}

theorem clauses_flatMap (small : ∀ clause ∈ clauses, ∀ n ∈ clause.numbers, HasOpposite n) :
    Clauses (clauses.flatMap clauseTokens) clauses := by
  induction clauses with
  | nil => exact .nil
  | cons clause clauses ih =>
      obtain ⟨first, others⟩ := List.forall_mem_cons.mp small
      exact .cons (isClause_clauseTokens first) (ih others)

theorem length_pos_clauseTokens (clause : SequenceClause) : 0 < (clauseTokens clause).length := by
  obtain ⟨form, listed, opening, body, shape, writes⟩ := exists_writes clause
  obtain ⟨token, later, rfl, -⟩ := form.exists_word listed writes.opens
  simp [shape]

theorem sequenceClausesUpTo_least
    (fits : ∀ clause ∈ clauses, ∀ n ∈ clause.numbers, Numeral.fitsInt64 n)
    (least : ∃ clause ∈ clauses, Numeral.minInt64 ∈ clause.numbers) :
    ∀ {most : Nat}, (clauses.flatMap clauseTokens).length < most →
      (sequenceClausesUpTo most).run (clauses.flatMap clauseTokens) = .error tooLarge := by
  induction clauses with
  | nil =>
      obtain ⟨clause, member, -⟩ := least
      cases member
  | cons clause clauses ih =>
      obtain ⟨fit, fits⟩ := List.forall_mem_cons.mp fits
      have some := length_pos_clauseTokens clause
      rintro (_ | most) enough
      · cases enough
      · rw [List.flatMap_cons] at enough ⊢
        rw [List.length_append] at enough
        have filled : clauseTokens clause ++ clauses.flatMap clauseTokens ≠ [] :=
          List.append_ne_nil_of_left_ne_nil (List.length_pos_iff.mp some) _
        rw [sequenceClausesUpTo_run most filled]
        by_cases here : Numeral.minInt64 ∈ clause.numbers
        · exact bind_of_error (sequenceClause_least here _)
        · have small : ∀ n ∈ clause.numbers, HasOpposite n :=
            fun n member => ⟨fit n member, fun same => here (same ▸ member)⟩
          have later : ∃ clause ∈ clauses, Numeral.minInt64 ∈ clause.numbers := by
            obtain ⟨found, listed, holds⟩ := least
            rcases List.mem_cons.mp listed with rfl | listed
            · exact absurd holds here
            · exact ⟨found, listed, holds⟩
          rw [bind_of_run (sequenceClause_reads.complete (isClause_clauseTokens small)
            (resumes_flatMap clauses))]
          exact bind_of_error (ih fits later (by omega))

/-- Clauses that are written out are read back, unless the least integer of 64 bits is among their
numbers: its digits without the sign are too large. -/
theorem sequenceClauses_written
    (fits : ∀ clause ∈ clauses, ∀ n ∈ clause.numbers, Numeral.fitsInt64 n) :
    sequenceClauses.run (clauses.flatMap clauseTokens) =
      if ∃ clause ∈ clauses, Numeral.minInt64 ∈ clause.numbers then .error tooLarge
      else .ok (clauses, []) := by
  split
  · rename_i least
    exact sequenceClausesUpTo_least fits least (Nat.lt_succ_self _)
  · rename_i free
    refine sequenceClauses_ok_iff.mpr ⟨rfl, clauses_flatMap fun clause listed n member => ?_⟩
    exact ⟨fits clause listed n member, fun same => free ⟨clause, listed, same ▸ member⟩⟩

end Written

/-- A clause with the least integer of 64 bits is refused in the tokens that it is written with. -/
theorem exampleLeast_refused : Numeral.fitsInt64 Numeral.minInt64 ∧
    sequenceClauses.run (clauseTokens (.minValue (some Numeral.minInt64))) =
      .error (.query (.invalidBigint "9223372036854775808")) := by
  refine ⟨by decide, ?_⟩
  have fits : ∀ clause ∈ [SequenceClause.minValue (some Numeral.minInt64)], ∀ n ∈ clause.numbers,
      Numeral.fitsInt64 n := by
    simp only [List.forall_mem_singleton, SequenceClause.numbers, Option.toList_some]
    decide
  have refused := sequenceClausesUpTo_least fits
    ⟨_, List.mem_singleton_self _, List.mem_singleton_self _⟩ (Nat.lt_succ_self _)
  rwa [List.flatMap_singleton] at refused

/-! ### Statements -/

section Statements

variable {ids : List Ident} {q : QName} {guard : List Token} {clauses : List SequenceClause}

theorem begins_eq_false_of_differ {other : List String} (are : areWords words opening)
    (apart : differ other words) (rest : List Token) : begins other (opening ++ rest) = false := by
  refine Bool.eq_false_iff.mpr fun there => ?_
  rw [differ_eq_false there (begins_append_of_areWords are)] at apart
  cases apart

/-- The name of a sequence is not taken for a guard. -/
theorem begins_dotted_clauses {first second : String} (nonempty : ids ≠ []) (resumes : Resumes rest)
    (other : second ∉ openers) :
    begins (first :: second :: words) (dotted ids ++ rest) = false := by
  obtain ⟨id, ids, rfl⟩ := List.exists_cons_of_ne_nil nonempty
  cases ids with
  | nil =>
      change (isWord first (.word id) && begins (second :: words) rest) = false
      rw [resumes.begins_eq_false other, Bool.and_false]
  | cons next ids =>
      rw [dotted_cons (List.cons_ne_nil next ids)]
      simp [begins, isWord]

theorem past_guard {first second : String}
    (guards : guard = [] ∨ areWords (first :: second :: words) guard) (nonempty : ids ≠ [])
    (resumes : Resumes rest) (other : second ∉ openers) :
    begins (first :: second :: words) (guard ++ (dotted ids ++ rest)) = !guard.isEmpty ∧
      past (first :: second :: words) (guard ++ (dotted ids ++ rest)) = dotted ids ++ rest := by
  rcases guards with rfl | are
  · have missing : begins (first :: second :: words) (dotted ids ++ rest) = false :=
      begins_dotted_clauses nonempty resumes other
    exact ⟨missing, past_of_begins_eq_false missing⟩
  · obtain ⟨token, others, rfl, -⟩ := areWords_cons_iff.mp are
    exact ⟨begins_append_of_areWords are, past_append are⟩

/-- What stands behind the first words of a statement: a guard, the name, and clauses. -/
def guardedClauses (guard : List String)
    (make : QName → Bool → List SequenceClause → Statement) : Reader Statement := do
  let guarded ← words? guard
  let name ← qualifiedName
  return make name guarded (← sequenceClauses)

theorem newSequence_eq :
    newSequence = guardedClauses ["if", "not", "exists"] .createSequence := rfl

theorem changedSequence_eq : changedSequence = guardedClauses ["if", "exists"] .alterSequence := rfl

theorem guardedClauses_run {first second : String}
    {make : QName → Bool → List SequenceClause → Statement}
    (guards : guard = [] ∨ areWords (first :: second :: words) guard) (other : second ∉ openers)
    (few : ids.length ≤ 2) (named : QName.ofParts ids = .ok q) (taken : Clauses tokens clauses) :
    (guardedClauses (first :: second :: words) make).run (guard ++ (dotted ids ++ tokens)) =
      .ok (make q (!guard.isEmpty) clauses, []) := by
  obtain ⟨guarded, left⟩ :=
    past_guard guards (QName.ne_nil_of_ofParts named) taken.resumes other
  rw [guardedClauses, bind_of_run (words?_run _ _), guarded, left, bind_of_run
    (qualifiedName_ok_iff.mpr ⟨ids, rfl, taken.resumes.dotless, few, named⟩),
    bind_of_run (sequenceClauses_ok_iff.mpr ⟨rfl, taken⟩)]
  rfl

/-- The words that create a sequence; a temporary one is no different. -/
def creations : List (List String) :=
  [["create", "sequence"], ["create", "temp", "sequence"], ["create", "temporary", "sequence"]]

theorem form?_createSequence (creates : words ∈ creations) (opens : areWords words opening) :
    form? (opening ++ rest) = some (newSequence, opening.length) := by
  have there : begins words (opening ++ rest) := begins_append_of_areWords opens
  have apart (other : List String) (differs : differ other words) :=
    begins_eq_false_of_differ opens differs rest
  rw [beq_iff_eq.mp ((Bool.and_eq_true _ _).mp opens).1]
  simp only [creations, List.mem_cons, List.not_mem_nil, or_false] at creates
  rcases creates with rfl | rfl | rfl
  · simp [form?, there, apart ["create", "extension"] (by decide)]
  · simp [form?, there, apart ["create", "extension"] (by decide),
      apart ["create", "sequence"] (by decide)]
  · simp [form?, there, apart ["create", "extension"] (by decide),
      apart ["create", "sequence"] (by decide), apart ["create", "temp", "sequence"] (by decide)]

theorem form?_alterSequence (opens : areWords ["alter", "sequence"] opening) :
    form? (opening ++ rest) = some (changedSequence, opening.length) := by
  have there : begins ["alter", "sequence"] (opening ++ rest) := begins_append_of_areWords opens
  have apart (other : List String) (differs : differ other ["alter", "sequence"]) :=
    begins_eq_false_of_differ opens differs rest
  rw [beq_iff_eq.mp ((Bool.and_eq_true _ _).mp opens).1]
  simp [form?, there, apart ["create", "extension"] (by decide),
    apart ["create", "sequence"] (by decide), apart ["create", "temp", "sequence"] (by decide),
    apart ["create", "temporary", "sequence"] (by decide)]

/-- A sequence is created with the clauses that its statement ends in. -/
theorem read_createSequence (creates : words ∈ creations) (opens : areWords words opening)
    (guards : guard = [] ∨ areWords ["if", "not", "exists"] guard)
    (few : ids.length ≤ 2) (named : QName.ofParts ids = .ok q) (taken : Clauses tokens clauses) :
    read (opening ++ (guard ++ (dotted ids ++ tokens))) =
      .ok (some (.createSequence q (!guard.isEmpty) clauses)) := by
  rw [read, form?_createSequence creates opens]
  dsimp only
  rw [List.drop_left, newSequence_eq, guardedClauses_run guards (by decide) few named taken]
  rfl

theorem read_alterSequence (opens : areWords ["alter", "sequence"] opening)
    (guards : guard = [] ∨ areWords ["if", "exists"] guard)
    (few : ids.length ≤ 2) (named : QName.ofParts ids = .ok q) (taken : Clauses tokens clauses) :
    read (opening ++ (guard ++ (dotted ids ++ tokens))) =
      .ok (some (.alterSequence q (!guard.isEmpty) clauses)) := by
  rw [read, form?_alterSequence opens]
  dsimp only
  rw [List.drop_left, changedSequence_eq, guardedClauses_run guards (by decide) few named taken]
  rfl

end Statements

end OwnForm

end Sql

end SqlEngine
