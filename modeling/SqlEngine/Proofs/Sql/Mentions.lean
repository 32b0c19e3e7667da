import SqlEngine.Database.Alteration
import SqlEngine.Proofs.Text.LowerCase
import SqlEngine.Proofs.Typing.Renaming

/-!
Which words occur in a term as it is written.

A column takes the checks along that mention it, and whether a check does so is told from its text: a
word of it has to be the name of the column. Where a term names a column, the identifier stands in the
text with no word character next to it, so a name that is a word is found. Other words are found as
well, such as those in literals and the names of functions; and a name that is no word is not found.
-/

namespace SqlEngine

namespace Define

/-! ### Words -/

/-- A part of a text with no word character right before it or right behind it. -/
def Apart (part whole : List Char) : Prop :=
  ∃ front back, whole = front ++ part ++ back ∧
    (∀ c ∈ front.getLast?, isWordChar c = false) ∧ ∀ c ∈ back.head?, isWordChar c = false

namespace Apart

variable {part middle whole : List Char}

theorem refl (cs : List Char) : Apart cs cs := ⟨[], [], by simp⟩

theorem trans (inner : Apart part middle) (outer : Apart middle whole) : Apart part whole := by
  obtain ⟨near, next, rfl, before, behind⟩ := inner
  obtain ⟨front, back, rfl, first, last⟩ := outer
  refine ⟨front ++ near, next ++ back, by simp only [List.append_assoc], fun c last => ?_,
    fun c head => ?_⟩
  · rw [List.getLast?_append, Option.mem_def, Option.or_eq_some_iff] at last
    exact last.elim (before c) fun ⟨_, last⟩ => first c last
  · rw [List.head?_append, Option.mem_def, Option.or_eq_some_iff] at head
    exact head.elim (behind c) fun ⟨_, head⟩ => last c head

end Apart

variable {c : Char} {w cs xs ys : List Char}

theorem words_ne_nil : ∀ cs : List Char, words cs ≠ []
  | [] => List.cons_ne_nil _ _
  | c :: rest => by
      rw [words]
      split
      · split <;> exact List.cons_ne_nil _ _
      · rename_i none
        exact absurd none (words_ne_nil rest)

/-- A text without separators is one word. -/
theorem words_word (letters : ∀ c ∈ w, isWordChar c = true) : words w = [w] := by
  induction w with
  | nil => rfl
  | cons c rest ih =>
      obtain ⟨letter, others⟩ := List.forall_mem_cons.mp letters
      simp only [words, ih others, letter, if_true]

theorem words_append (separator : isWordChar c = false) :
    words (xs ++ c :: ys) = words xs ++ words ys := by
  induction xs with
  | nil =>
      obtain ⟨word, later, same⟩ := List.exists_cons_of_ne_nil (words_ne_nil ys)
      simp [words, same, separator]
  | cons x rest ih =>
      obtain ⟨word, later, same⟩ := List.exists_cons_of_ne_nil (words_ne_nil rest)
      rw [List.cons_append, words, words, ih, same]
      dsimp only [List.cons_append]
      split <;> rfl

/-- The words of a text are its parts without separators that have separators around them. -/
theorem mem_words_iff : w ∈ words cs ↔ Apart w cs ∧ ∀ c ∈ w, isWordChar c = true := by
  constructor
  · -- the text is read from the left, and what is read may belong to a word that goes on
    suffices read : ∀ cs begun : List Char, (∀ c ∈ begun, isWordChar c = true) →
        w ∈ words (begun ++ cs) → Apart w (begun ++ cs) ∧ ∀ c ∈ w, isWordChar c = true from
      fun member => read cs [] (List.forall_mem_nil _) member
    intro cs
    induction cs with
    | nil =>
        intro begun letters member
        rw [List.append_nil] at member ⊢
        rw [words_word letters, List.mem_singleton] at member
        subst member
        exact ⟨.refl _, letters⟩
    | cons c rest ih =>
        intro begun letters member
        by_cases letter : isWordChar c = true
        · rw [List.append_cons] at member ⊢
          refine ih (begun ++ [c]) ?_ member
          simpa [or_imp, forall_and, letter] using letters
        · rw [Bool.not_eq_true] at letter
          rw [words_append letter, words_word letters, List.singleton_append] at member
          rcases List.mem_cons.mp member with rfl | later
          · exact ⟨⟨[], c :: rest, by simp, by simp, by simpa using letter⟩, letters⟩
          · obtain ⟨apart, all⟩ := ih [] (List.forall_mem_nil _) later
            refine ⟨apart.trans ⟨begun ++ [c], [], by simp, ?_, by simp⟩, all⟩
            simpa using letter
  · rintro ⟨⟨front, back, rfl, before, behind⟩, letters⟩
    have first : ∃ others, words (w ++ back) = w :: others := by
      cases back with
      | nil => exact ⟨[], by rw [List.append_nil, words_word letters]⟩
      | cons c back =>
          rw [words_append (behind c rfl), words_word letters]
          exact ⟨_, rfl⟩
    obtain ⟨others, first⟩ := first
    rw [List.append_assoc]
    rcases List.eq_nil_or_concat front with rfl | ⟨front, c, rfl⟩
    · simp [first]
    · rw [List.concat_eq_append] at before ⊢
      rw [List.append_assoc, List.singleton_append, words_append (before c (by simp)), first]
      simp

theorem mentions_iff {t : Sql.Term} {name : String} : mentions t name = true ↔
    ∃ w, Apart w t.text.toList ∧ (∀ c ∈ w, isWordChar c = true) ∧
      w.map Numeral.lowerAscii = name.toList.map Numeral.lowerAscii := by
  simp only [mentions, List.any_eq_true, mem_words_iff, beq_iff_eq, and_assoc]

end Define

namespace Sql

open Define (Apart isWordChar)

/-! ### Parts of a text -/

section Parts

variable {w : List Char} {t rest : String}

/-- The marks that stand next to terms in other terms. -/
def isMark (c : Char) : Bool := " ()[],.:+-!".toList.contains c

theorem isWordChar_of_isMark {c : Char} (mark : isMark c = true) : isWordChar c = false := by
  have each : (" ()[],.:+-!".toList.all fun c => !isWordChar c) = true := by decide +kernel
  simpa using List.all_eq_true.mp each c (List.contains_iff_mem.mp mark)

/-- The text begins with a mark. -/
def begins (text : String) : Bool := text.toList.head?.any isMark

/-- The text ends with a mark. -/
def ends (text : String) : Bool := text.toList.getLast?.any isMark

theorem apart_front (inner : Apart w t.toList) {back : String} (separated : begins back = true) :
    Apart w (t ++ back).toList := by
  refine inner.trans ⟨[], back.toList, by simp, by simp, fun c head => ?_⟩
  rw [begins, Option.mem_def.mp head] at separated
  exact isWordChar_of_isMark separated

theorem apart_back (inner : Apart w t.toList) {front : String} (separated : ends front = true) :
    Apart w (front ++ t).toList := by
  refine inner.trans ⟨front.toList, [], by simp, fun c last => ?_, by simp⟩
  rw [ends, Option.mem_def.mp last] at separated
  exact isWordChar_of_isMark separated

/-- Nothing behind a part leaves it apart, too. -/
theorem apart_before (inner : Apart w t.toList) {back : String}
    (separated : back = "" ∨ begins back = true) : Apart w (t ++ back).toList := by
  rcases separated with rfl | separated
  · rwa [String.append_empty]
  · exact apart_front inner separated

theorem begins_append (separated : begins t = true) : begins (t ++ rest) = true := by
  unfold begins at *
  rw [String.toList_append, List.head?_append]
  cases first : t.toList.head? <;> simp_all

theorem ends_append (separated : ends t = true) : ends (rest ++ t) = true := by
  unfold ends at *
  rw [String.toList_append, List.getLast?_append]
  cases last : t.toList.getLast? <;> simp_all

theorem apart_skip (inner : Apart w rest.toList) {separator : String}
    (separated : ends separator = true) : Apart w (t ++ (separator ++ rest)).toList := by
  rw [← String.append_assoc]
  exact apart_back inner (ends_append separated)

/-- In a list with separators between the items, all items stand apart. -/
theorem apart_intercalate {separator : String} (before : begins separator = true)
    (behind : ends separator = true) : ∀ {texts : List String}, t ∈ texts →
      Apart t.toList (separator.intercalate texts).toList
  | [], member => absurd member List.not_mem_nil
  | [text], member => by
      rw [List.mem_singleton.mp member, String.intercalate_singleton]
      exact .refl _
  | text :: next :: rest, member => by
      rw [String.intercalate_cons_cons, String.append_assoc]
      rcases List.mem_cons.mp member with rfl | later
      · exact apart_front (.refl _) (begins_append before)
      · exact apart_skip (apart_intercalate before behind later) behind

theorem apart_commas {texts : List String} (member : t ∈ texts) :
    Apart t.toList (commas texts).toList :=
  apart_intercalate (by decide +kernel) (by decide +kernel) member

theorem apart_dottedText {parts : List Ident} {id : Ident} (member : id ∈ parts) :
    Apart id.text.toList (dottedText parts).toList :=
  apart_intercalate (by decide +kernel) (by decide +kernel) (List.mem_map_of_mem member)

end Parts

/-! ### Columns that a term names -/

/-- The identifiers of two terms. -/
def joined? (l r : Option (List Ident)) : Option (List Ident) := l.bind fun ids => r.map (ids ++ ·)

theorem joined?_eq_some {l r : Option (List Ident)} {ids : List Ident} :
    joined? l r = some ids ↔ ∃ left right, l = some left ∧ r = some right ∧ ids = left ++ right := by
  cases l <;> cases r <;> simp [joined?, eq_comm]

/-- The last part of a dotted name, if the name is that of a column. -/
def pathIdents : List Ident → List Ident
  | [_, id] | [_, _, id] => [id]
  | _ => []

/-- Does the engine have a meaning for the operator? -/
def UnaryOperator.isKnown : UnaryOperator → Bool
  | other _ => false
  | _ => true

mutual

/-- The identifiers in a term that stand for columns. There is no answer if the term has a subquery,
an operator without a meaning, or arguments that are not written. -/
def Term.columnIdents? : Term → Option (List Ident)
  | .name id => some [id]
  | .path parts => some (pathIdents parts)
  | .constant _ | .typed .. | .arrayAgg .. | .unsupported _ => some []
  | .nested t | .cast t _ _ | .is t _ _ => t.columnIdents?
  | .unary op t => if op.isKnown then t.columnIdents? else none
  | .binary l _ r | .json l _ r | .like l r _ _ _ => joined? l.columnIdents? r.columnIdents?
  | .between t low high _ => joined? (joined? t.columnIdents? low.columnIdents?) high.columnIdents?
  | .inList t items _ | .subscript t items => joined? t.columnIdents? (Term.allColumnIdents? items)
  | .case operand branches otherwise =>
    joined? (joined? (Term.optionColumnIdents? operand) (Term.branchColumnIdents? branches))
      (Term.optionColumnIdents? otherwise)
  | .call head args _ _ =>
    if head.bare && !args.isEmpty then none else Argument.allColumnIdents? args
  | .array items _ => Term.allColumnIdents? items
  | .inQuery .. | .exists .. | .subquery _ => none

def Term.allColumnIdents? : List Term → Option (List Ident)
  | [] => some []
  | t :: rest => joined? t.columnIdents? (Term.allColumnIdents? rest)

def Term.optionColumnIdents? : Option Term → Option (List Ident)
  | none => some []
  | some t => t.columnIdents?

def Term.branchColumnIdents? : List (Term × Term) → Option (List Ident)
  | [] => some []
  | (condition, result) :: rest =>
    joined? (joined? condition.columnIdents? result.columnIdents?) (Term.branchColumnIdents? rest)

def Argument.allColumnIdents? : List Argument → Option (List Ident)
  | [] => some []
  | .term _ t :: rest => joined? t.columnIdents? (Argument.allColumnIdents? rest)
  | .star _ :: rest | .tableStar _ _ :: rest => Argument.allColumnIdents? rest

end

section Identifiers

variable {q : String → Bool} {ids : List Ident}

mutual

theorem Term.names_eq_all : ∀ {t : Term} {ids : List Ident}, t.columnIdents? = some ids →
    t.names (fun _ name => q name) = ids.all fun id => q id.name
  | .name id, _, named => by
      cases named
      simp [Term.names]
  | .path parts, _, named => by
      cases named
      unfold Term.names Term.pathNames pathIdents
      split <;> simp
  | .constant _, _, named | .typed .., _, named | .arrayAgg .., _, named
  | .unsupported _, _, named => by
      cases named
      rfl
  | .nested t, _, named | .cast t _ _, _, named | .is t _ _, _, named =>
      Term.names_eq_all (t := t) named
  | .unary op t, _, named => by
      unfold Term.columnIdents? at named
      split at named
      · exact Term.names_eq_all (t := t) named
      · cases named
  | .binary l _ r, _, named | .json l _ r, _, named | .like l r _ _ _, _, named => by
      obtain ⟨left, right, first, second, rfl⟩ := joined?_eq_some.mp named
      rw [Term.names, Term.names_eq_all first, Term.names_eq_all second, List.all_append]
  | .between t low high _, _, named => by
      obtain ⟨_, right, both, last, rfl⟩ := joined?_eq_some.mp named
      obtain ⟨left, middle, first, second, rfl⟩ := joined?_eq_some.mp both
      rw [Term.names, Term.names_eq_all first, Term.names_eq_all second, Term.names_eq_all last,
        List.all_append, List.all_append]
  | .inList t items _, _, named | .subscript t items, _, named => by
      obtain ⟨left, right, first, second, rfl⟩ := joined?_eq_some.mp named
      rw [Term.names, Term.names_eq_all first, Term.allName_eq_all second, List.all_append]
  | .case operand branches otherwise, _, named => by
      obtain ⟨_, right, both, last, rfl⟩ := joined?_eq_some.mp named
      obtain ⟨left, middle, first, second, rfl⟩ := joined?_eq_some.mp both
      rw [List.all_append, List.all_append, ← Term.optionNames_eq_all first,
        ← Term.branchNames_eq_all second, ← Term.optionNames_eq_all last, Term.names]
      simp only [Bool.and_assoc]
  | .call head args _ _, _, named => by
      unfold Term.columnIdents? at named
      split at named
      · cases named
      · exact Argument.allName_eq_all named
  | .array items _, _, named => by
      rw [Term.names]
      exact Term.allName_eq_all named
  | .inQuery .., _, named | .exists .., _, named | .subquery _, _, named => by cases named

theorem Term.allName_eq_all : ∀ {items : List Term} {ids : List Ident},
    Term.allColumnIdents? items = some ids →
      Term.allName (fun _ name => q name) items = ids.all fun id => q id.name
  | [], _, named => by
      cases named
      rfl
  | t :: rest, _, named => by
      obtain ⟨left, right, first, others, rfl⟩ := joined?_eq_some.mp named
      rw [Term.allName, Term.names_eq_all first, Term.allName_eq_all others, List.all_append]

theorem Term.optionNames_eq_all : ∀ {t : Option Term} {ids : List Ident},
    Term.optionColumnIdents? t = some ids →
      Term.optionNames (fun _ name => q name) t = ids.all fun id => q id.name
  | none, _, named => by
      cases named
      rfl
  | some t, _, named => Term.names_eq_all (t := t) named

theorem Term.branchNames_eq_all : ∀ {branches : List (Term × Term)} {ids : List Ident},
    Term.branchColumnIdents? branches = some ids →
      (Term.testsName (fun _ name => q name) branches &&
        Term.resultsName (fun _ name => q name) branches) = ids.all fun id => q id.name
  | [], _, named => by
      cases named
      rfl
  | (condition, result) :: rest, _, named => by
      obtain ⟨_, right, both, others, rfl⟩ := joined?_eq_some.mp named
      obtain ⟨left, middle, first, second, rfl⟩ := joined?_eq_some.mp both
      rw [List.all_append, List.all_append, ← Term.names_eq_all first, ← Term.names_eq_all second,
        ← Term.branchNames_eq_all others, Term.testsName, Term.resultsName]
      simp only [Bool.and_assoc, Bool.and_left_comm]

theorem Argument.allName_eq_all : ∀ {args : List Argument} {ids : List Ident},
    Argument.allColumnIdents? args = some ids →
      Argument.allName (fun _ name => q name) args = ids.all fun id => q id.name
  | [], _, named => by
      cases named
      rfl
  | .term _ t :: rest, _, named => by
      obtain ⟨left, right, first, others, rfl⟩ := joined?_eq_some.mp named
      rw [Argument.allName, Term.names_eq_all first, Argument.allName_eq_all others, List.all_append]
  | .star _ :: rest, _, named | .tableStar _ _ :: rest, _, named => by
      rw [Argument.allName]
      exact Argument.allName_eq_all named

end

variable {id : Ident}

theorem begins_prefixedText {mark rest : String} (marked : begins mark = true)
    (behind : begins rest = true) (t : Option Term) :
    begins (Term.prefixedText mark t ++ rest) = true := by
  cases t with
  | none => rwa [Term.prefixedText, String.empty_append]
  | some t => exact begins_append (begins_append marked)

theorem begins_listText {mark rest : String} (marked : begins mark = true)
    (behind : begins rest = true) (parts : List String) :
    begins (listText mark parts ++ rest) = true := by
  unfold listText
  split
  · rwa [String.empty_append]
  · exact begins_append (begins_append marked)

theorem branchesText_begins : ∀ branches : List (Term × Term),
    Term.branchesText branches = "" ∨ begins (Term.branchesText branches) = true
  | [] => .inl rfl
  | _ :: _ => by
      simp only [Term.branchesText, String.append_assoc]
      exact .inr (begins_append (by decide +kernel))

theorem begins_branchesText {rest : String} (behind : begins rest = true)
    (branches : List (Term × Term)) : begins (Term.branchesText branches ++ rest) = true := by
  rcases branchesText_begins branches with none | some
  · rwa [none, String.empty_append]
  · exact begins_append some

theorem indexesText_begins : ∀ indexes : List Term,
    Term.indexesText indexes = "" ∨ begins (Term.indexesText indexes) = true
  | [] => .inl rfl
  | _ :: _ => by
      simp only [Term.indexesText, String.append_assoc]
      exact .inr (begins_append (by decide +kernel))

theorem apart_labelText {w : List Char} {t : String} (inner : Apart w t.toList)
    (label : Option Ident) : Apart w (labelText label ++ t).toList := by
  cases label with
  | none => rwa [labelText, String.empty_append]
  | some label => exact apart_back inner (ends_append (by decide +kernel))

mutual

/-- An identifier that stands for a column is written in the text, with no word character next to it. -/
theorem Term.apart_text : ∀ {t : Term} {ids : List Ident}, t.columnIdents? = some ids → id ∈ ids →
    Apart id.text.toList t.text.toList
  | .name _, _, named, member => by
      cases named
      rw [List.mem_singleton.mp member]
      exact .refl _
  | .path parts, _, named, member => by
      cases named
      refine apart_dottedText ?_
      unfold pathIdents at member
      split at member <;> simp_all
  | .constant _, _, named, member | .typed .., _, named, member | .arrayAgg .., _, named, member
  | .unsupported _, _, named, member => by
      cases named
      cases member
  | .nested t, _, named, member => by
      rw [Term.text]
      exact apart_front (apart_back (Term.apart_text (t := t) named member) (by decide +kernel))
        (by decide +kernel)
  | .cast t type format, _, named, member => by
      rw [Term.text]
      simp only [String.append_assoc]
      refine apart_back (apart_front (Term.apart_text (t := t) named member) ?_) (by decide +kernel)
      exact begins_append (by decide +kernel)
  | .is t test negated, _, named, member => by
      rw [Term.text]
      simp only [String.append_assoc]
      exact apart_front (Term.apart_text (t := t) named member) (begins_append (by decide +kernel))
  | .unary op t, _, named, member => by
      unfold Term.columnIdents? at named
      split at named
      · rename_i known
        have inner := Term.apart_text (t := t) named member
        cases op with
        | plus | minus | negation =>
            simp only [Term.text]
            exact apart_back inner (by decide +kernel)
        | factorial =>
            rw [Term.text]
            exact apart_front inner (by decide +kernel)
        | other spelling => cases known
      · cases named
  | .binary l op r, _, named, member => by
      obtain ⟨left, right, first, second, rfl⟩ := joined?_eq_some.mp named
      rw [Term.text]
      rcases List.mem_append.mp member with inside | inside
      · simp only [String.append_assoc]
        exact apart_front (Term.apart_text first inside) (begins_append (by decide +kernel))
      · exact apart_back (Term.apart_text second inside) (ends_append (by decide +kernel))
  | .json l op r, _, named, member => by
      obtain ⟨left, right, first, second, rfl⟩ := joined?_eq_some.mp named
      rw [Term.text]
      split
      · rename_i colon
        rw [eq_of_beq colon]
        rcases List.mem_append.mp member with inside | inside
        · rw [String.append_assoc]
          exact apart_front (Term.apart_text first inside) (begins_append (by decide +kernel))
        · exact apart_back (Term.apart_text second inside) (ends_append (by decide +kernel))
      · rcases List.mem_append.mp member with inside | inside
        · simp only [String.append_assoc]
          exact apart_front (Term.apart_text first inside) (begins_append (by decide +kernel))
        · exact apart_back (Term.apart_text second inside) (ends_append (by decide +kernel))
  | .like l r escape negated insensitive, _, named, member => by
      obtain ⟨left, right, first, second, rfl⟩ := joined?_eq_some.mp named
      simp only [Term.text]
      rcases List.mem_append.mp member with inside | inside
      · simp only [String.append_assoc]
        exact apart_front (Term.apart_text first inside) (begins_append (by decide +kernel))
      · have behind : Apart id.text.toList (l.text ++ " " ++ notText negated ++
            (if insensitive then "ILIKE " else "LIKE ") ++ r.text).toList := by
          refine apart_back (Term.apart_text second inside) (ends_append ?_)
          cases insensitive <;> decide +kernel
        cases escape with
        | none => rwa [String.append_empty]
        | some c =>
            exact apart_front behind (begins_append (begins_append (by decide +kernel)))
  | .between t low high negated, _, named, member => by
      obtain ⟨_, right, both, last, rfl⟩ := joined?_eq_some.mp named
      obtain ⟨left, middle, first, second, rfl⟩ := joined?_eq_some.mp both
      rw [Term.text]
      rw [List.mem_append, List.mem_append] at member
      rcases member with (inside | inside) | inside
      · simp only [String.append_assoc]
        exact apart_front (Term.apart_text first inside) (begins_append (by decide +kernel))
      · rw [String.append_assoc]
        refine apart_front (apart_back (Term.apart_text second inside) ?_) ?_
        · exact ends_append (by decide +kernel)
        · exact begins_append (by decide +kernel)
      · exact apart_back (Term.apart_text last inside) (ends_append (by decide +kernel))
  | .inList t items negated, _, named, member => by
      obtain ⟨left, right, first, others, rfl⟩ := joined?_eq_some.mp named
      rw [Term.text]
      rcases List.mem_append.mp member with inside | inside
      · simp only [String.append_assoc]
        exact apart_front (Term.apart_text first inside) (begins_append (by decide +kernel))
      · obtain ⟨text, there, inner⟩ := Term.apart_texts others inside
        exact apart_front (apart_back (inner.trans (apart_commas there))
          (ends_append (by decide +kernel))) (by decide +kernel)
  | .subscript t indexes, _, named, member => by
      obtain ⟨left, right, first, others, rfl⟩ := joined?_eq_some.mp named
      rw [Term.text]
      rcases List.mem_append.mp member with inside | inside
      · exact apart_before (Term.apart_text first inside) (indexesText_begins indexes)
      · exact Term.apart_indexesText others inside
  | .case operand branches otherwise, _, named, member => by
      obtain ⟨_, right, both, last, rfl⟩ := joined?_eq_some.mp named
      obtain ⟨left, middle, first, second, rfl⟩ := joined?_eq_some.mp both
      rw [Term.text]
      rw [List.mem_append, List.mem_append] at member
      -- a blank comes behind the branches, whether or not there is an `ELSE`
      have closed : begins (Term.prefixedText " ELSE " otherwise ++ " END") = true :=
        begins_prefixedText (by decide +kernel) (by decide +kernel) otherwise
      rcases member with (inside | inside) | inside
      · rw [String.append_assoc, String.append_assoc]
        exact apart_front (Term.apart_prefixedText (by decide +kernel) first inside)
          (begins_branchesText closed branches)
      · rw [String.append_assoc]
        exact apart_front (Term.apart_branchesText second inside) closed
      · exact apart_front (Term.apart_prefixedText (by decide +kernel) last inside) (by decide +kernel)
  | .call head args _ _, _, named, member => by
      unfold Term.columnIdents? at named
      split at named
      · cases named
      · -- a call that is written as its mere name has no arguments that could hold the identifier
        rename_i written
        obtain ⟨text, there, inner⟩ := Argument.apart_texts named member
        unfold Term.text
        split
        · rename_i bare
          simp only [bare, Bool.true_and, Bool.not_eq_true', Bool.not_eq_false,
            List.isEmpty_iff] at written
          subst written
          cases there
        · have listed : Apart id.text.toList (dottedText head.name ++ "(" ++
              (if head.distinct then "DISTINCT " else "") ++ commas (Argument.texts args)).toList := by
            refine apart_back (inner.trans (apart_commas there)) ?_
            split
            · exact ends_append (by decide +kernel)
            · rw [String.append_empty]
              exact ends_append (by decide +kernel)
          have tail (x l p a b c : String) :
              x ++ l ++ p ++ a ++ b ++ c = x ++ (l ++ (p ++ (a ++ b ++ c))) := by
            simp only [String.append_assoc]
          rw [tail]
          refine apart_front listed (begins_listText (by decide +kernel) ?_ _)
          exact begins_append (by decide +kernel)
  | .array items labelled, _, named, member => by
      obtain ⟨text, there, inner⟩ : ∃ text ∈ Term.texts items, Apart id.text.toList text.toList :=
        Term.apart_texts named member
      rw [Term.text]
      exact apart_front (apart_back (inner.trans (apart_commas there))
          (ends_append (by decide +kernel))) (by decide +kernel)
  | .inQuery .., _, named, _ | .exists .., _, named, _ | .subquery _, _, named, _ => by cases named

theorem Term.apart_texts : ∀ {items : List Term} {ids : List Ident},
    Term.allColumnIdents? items = some ids → id ∈ ids →
      ∃ text ∈ Term.texts items, Apart id.text.toList text.toList
  | [], _, named, member => by
      cases named
      cases member
  | t :: rest, _, named, member => by
      obtain ⟨left, right, first, others, rfl⟩ := joined?_eq_some.mp named
      rcases List.mem_append.mp member with inside | inside
      · exact ⟨t.text, List.mem_cons_self, Term.apart_text first inside⟩
      · obtain ⟨text, there, inner⟩ := Term.apart_texts others inside
        exact ⟨text, List.mem_cons_of_mem _ there, inner⟩

theorem Term.apart_prefixedText {front mark : String} (separated : ends mark = true) :
    ∀ {t : Option Term} {ids : List Ident}, Term.optionColumnIdents? t = some ids → id ∈ ids →
      Apart id.text.toList (front ++ Term.prefixedText mark t).toList
  | none, _, named, member => by
      cases named
      cases member
  | some t, _, named, member => by
      rw [Term.prefixedText]
      exact apart_skip (Term.apart_text (t := t) named member) separated

theorem Term.apart_branchesText : ∀ {branches : List (Term × Term)} {ids : List Ident}
    {front : String}, Term.branchColumnIdents? branches = some ids → id ∈ ids →
      Apart id.text.toList (front ++ Term.branchesText branches).toList
  | [], _, _, named, member => by
      cases named
      cases member
  | (condition, result) :: rest, _, front, named, member => by
      obtain ⟨_, right, both, others, rfl⟩ := joined?_eq_some.mp named
      obtain ⟨left, middle, first, second, rfl⟩ := joined?_eq_some.mp both
      rw [List.mem_append, List.mem_append] at member
      rcases member with (inside | inside) | inside
      · simp only [Term.branchesText, String.append_assoc]
        rw [← String.append_assoc]
        refine apart_back (apart_front (Term.apart_text first inside) ?_) ?_
        · exact begins_append (by decide +kernel)
        · exact ends_append (by decide +kernel)
      · have tail (a b c d e f : String) :
            a ++ (b ++ c ++ d ++ e ++ f) = a ++ b ++ c ++ d ++ e ++ f := by
          simp only [String.append_assoc]
        rw [Term.branchesText, tail]
        refine apart_before (apart_back (Term.apart_text second inside) ?_) (branchesText_begins rest)
        exact ends_append (by decide +kernel)
      · rw [Term.branchesText, ← String.append_assoc]
        exact Term.apart_branchesText others inside

theorem Term.apart_indexesText : ∀ {indexes : List Term} {ids : List Ident} {front : String},
    Term.allColumnIdents? indexes = some ids → id ∈ ids →
      Apart id.text.toList (front ++ Term.indexesText indexes).toList
  | [], _, _, named, member => by
      cases named
      cases member
  | t :: rest, _, front, named, member => by
      obtain ⟨left, right, first, others, rfl⟩ := joined?_eq_some.mp named
      rcases List.mem_append.mp member with inside | inside
      · simp only [Term.indexesText, String.append_assoc]
        refine apart_skip (apart_front (Term.apart_text first inside) ?_) (by decide +kernel)
        exact begins_append (by decide +kernel)
      · rw [Term.indexesText, ← String.append_assoc]
        exact Term.apart_indexesText others inside

theorem Argument.apart_texts : ∀ {args : List Argument} {ids : List Ident},
    Argument.allColumnIdents? args = some ids → id ∈ ids →
      ∃ text ∈ Argument.texts args, Apart id.text.toList text.toList
  | [], _, named, member => by
      cases named
      cases member
  | .term label t :: rest, _, named, member => by
      obtain ⟨left, right, first, others, rfl⟩ := joined?_eq_some.mp named
      rcases List.mem_append.mp member with inside | inside
      · refine ⟨_, List.mem_cons_self, ?_⟩
        rw [Argument.text]
        exact apart_labelText (Term.apart_text first inside) label
      · obtain ⟨text, there, inner⟩ := Argument.apart_texts others inside
        exact ⟨text, List.mem_cons_of_mem _ there, inner⟩
  | .star _ :: rest, _, named, member | .tableStar _ _ :: rest, _, named, member => by
      obtain ⟨text, there, inner⟩ : ∃ text ∈ Argument.texts rest, Apart id.text.toList text.toList :=
        Argument.apart_texts named member
      exact ⟨text, List.mem_cons_of_mem _ there, inner⟩

end

end Identifiers

/-! ### Names that are found -/

section Found

open Define (mentions mentions_iff)

variable {t : Term} {ids : List Ident} {id : Ident} {name : String}

/-- What an identifier mentions that stands for a column, the whole term mentions. -/
theorem Term.mentions_of_ident (written : t.columnIdents? = some ids) (member : id ∈ ids)
    (mentioned : mentions (.name id) name = true) : mentions t name = true := by
  obtain ⟨w, apart, letters, same⟩ := mentions_iff.mp mentioned
  rw [Term.text] at apart
  exact mentions_iff.mpr ⟨w, apart.trans (Term.apart_text written member), letters, same⟩

/-- The identifier is quoted with double quotes, or else its name is its value in lower case as far as
the case of ASCII letters goes. -/
structure Ident.Plain (id : Ident) : Prop where
  quote : id.quote = none ∨ id.quote = some '"'
  ascii : id.quote = none → ∀ c ∈ id.value.toList, c.toNat < 128

theorem lowerAscii_toLower {c : Char} (ascii : c.toNat < 128) :
    Numeral.lowerAscii c.toLower = Numeral.lowerAscii c :=
  Text.forall_ascii (P := fun c => Numeral.lowerAscii c.toLower = Numeral.lowerAscii c) (by decide)
    ascii

theorem isWordChar_toLower {c : Char} (ascii : c.toNat < 128) :
    isWordChar c.toLower = isWordChar c := by
  have letter : c.toLower = c ∨ isWordChar c.toLower = true ∧ isWordChar c = true :=
    Text.forall_ascii (P := fun c => c.toLower = c ∨ isWordChar c.toLower = true ∧
      isWordChar c = true) (by decide +kernel) ascii
  rcases letter with same | ⟨small, capital⟩
  · rw [same]
  · rw [small, capital]

theorem doubled_of_notMem {quote : Char} : ∀ {cs : List Char} (before : Option Char), quote ∉ cs →
    Quoted.doubled quote before cs = cs
  | [], _, _ => rfl
  | c :: rest, before, unquoted => by
      obtain ⟨other, others⟩ := List.ne_and_not_mem_of_not_mem_cons unquoted
      unfold Quoted.doubled
      rw [if_neg (by simpa using Ne.symm other), doubled_of_notMem _ others]

/-- A plain identifier mentions the name that it stands for, if the name is a word. -/
theorem Ident.Plain.mentions (plain : id.Plain) (letters : ∀ c ∈ id.name.toList, isWordChar c = true) :
    mentions (.name id) id.name = true := by
  rw [mentions_iff, Term.text]
  rcases plain.quote with bare | quoted
  · have ascii := plain.ascii bare
    have lower : id.name.toList = id.value.toList.map Char.toLower := by
      rw [Ident.name, bare]
      exact (String.toList_ofList).trans (Text.lowerAfter_ascii [] ascii)
    refine ⟨id.value.toList, ?_, fun c member => ?_, ?_⟩
    · rw [Ident.text, bare]
      exact .refl _
    · rw [← isWordChar_toLower (ascii c member)]
      exact letters _ (lower ▸ List.mem_map_of_mem member)
    · rw [lower, List.map_map]
      exact List.map_congr_left fun c member => (lowerAscii_toLower (ascii c member)).symm
  · have name : id.name = id.value := by rw [Ident.name, quoted]
    rw [name] at letters ⊢
    have unquoted : '"' ∉ id.value.toList := fun member =>
      absurd (letters _ member) (by decide +kernel)
    refine ⟨id.value.toList, ?_, letters, rfl⟩
    have text : id.text = Quoted.within '"' id.value := by rw [Ident.text, quoted]
    have separator : isWordChar '"' = false := by decide +kernel
    refine ⟨['"'], ['"'], ?_, by simpa using separator, by simpa using separator⟩
    rw [text, Quoted.within, String.toList_ofList, doubled_of_notMem none unquoted]
    rfl

/-- All identifiers in the term that stand for columns are plain. -/
def Term.PlainNames (t : Term) : Prop := ∃ ids, t.columnIdents? = some ids ∧ ∀ id ∈ ids, id.Plain

/-- A term mentions all the columns that it names by plain identifiers and whose names are words. -/
theorem Term.PlainNames.mentions (plain : t.PlainNames)
    (letters : ∀ c ∈ name.toList, isWordChar c = true)
    (named : t.names (fun _ column => column != name) = false) : mentions t name = true := by
  obtain ⟨ids, written, each⟩ := plain
  rw [Term.names_eq_all written, List.all_eq_false] at named
  obtain ⟨id, member, same⟩ := named
  simp only [bne_iff_ne, ne_eq, not_not] at same
  subst same
  exact Term.mentions_of_ident written member ((each id member).mentions letters)

/-- `b <> 'a'` -/
def exampleLiteral : Term := .binary (.name ⟨"b", none⟩) .notEqual (.constant (.string "a"))

/-- `"my col" > 0` -/
def exampleSpaced : Term :=
  .binary (.name ⟨"my col", some '"'⟩) .greater (.constant (.number "0" false))

/-- A word of a literal is mentioned, and so is not only what the term names. -/
theorem exampleLiteral_mentions : mentions exampleLiteral "a" = true ∧
    exampleLiteral.names (fun _ column => column != "a") = true := by decide +kernel

/-- A column whose name is no word is named, but not mentioned. -/
theorem exampleSpaced_unmentioned : mentions exampleSpaced "my col" = false ∧
    exampleSpaced.names (fun _ column => column != "my col") = false := by decide +kernel

end Found

end Sql

end SqlEngine
