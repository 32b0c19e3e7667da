import SqlEngine.Proofs.Catalog.Names
import SqlEngine.Value.Literal

/-!
The grammar of array literals.

The grammar is an inductive relation between texts and items, in a few versions: nothing at all may
stand for an item or not, and braces that hold blanks only may stand for the empty array or not.
What is read is exactly one of these versions, and it is not the one that arrays are described with:
in `{1,}` there is an empty text behind the comma, and in `{ }` there is one between the braces. The
two agree exactly on the literals of the version that is in both of them, and whatever is described
is read as something. A reading is never off without an empty text in it.
-/

namespace SqlEngine

/-! ### Blanks around a text -/

namespace Text

variable {cs front back : List Char}

def AllBlank (cs : List Char) : Prop := ∀ c ∈ cs, isBlank c

theorem allBlank_nil : AllBlank [] := fun _ member => absurd member List.not_mem_nil

theorem AllBlank.append (first : AllBlank front) (second : AllBlank back) :
    AllBlank (front ++ back) :=
  List.forall_mem_append.mpr ⟨first, second⟩

theorem AllBlank.reverse (blank : AllBlank cs) : AllBlank cs.reverse :=
  fun c member => blank c (List.mem_reverse.mp member)

theorem dropBlanks_append (blank : AllBlank front) : dropBlanks (front ++ cs) = dropBlanks cs :=
  List.dropWhile_append_of_pos blank

theorem dropBlanks_of_allBlank (blank : AllBlank cs) : dropBlanks cs = [] := by
  have dropped : dropBlanks (cs ++ []) = dropBlanks [] := dropBlanks_append blank
  rwa [List.append_nil] at dropped

theorem dropBlanks_split (cs : List Char) :
    ∃ front, AllBlank front ∧ cs = front ++ dropBlanks cs :=
  ⟨cs.takeWhile isBlank, List.all_eq_true.mp List.all_takeWhile,
    List.takeWhile_append_dropWhile.symm⟩

theorem dark_of_dropBlanks {c : Char} {rest : List Char} (shape : dropBlanks cs = c :: rest) :
    isBlank c = false := by
  have first := List.head?_dropWhile_not isBlank cs
  rw [← dropBlanks, shape] at first
  simpa using first

/-- Trimming takes off blanks only, and all of them. -/
theorem trim_append (blank : AllBlank front) (blank' : AllBlank back)
    (framed : cs ≠ [] → isFramed cs) : trim (front ++ cs ++ back) = cs := by
  rw [trim, List.append_assoc, dropBlanks_append blank]
  by_cases empty : cs = []
  · rw [empty, List.nil_append, dropBlanks_of_allBlank blank']
    rfl
  · obtain ⟨first, rest, -, -, shape, -, dark, -⟩ := isFramed_iff.mp (framed empty)
    have kept : dropBlanks (cs ++ back) = cs ++ back := by
      rw [shape, List.cons_append, dropBlanks_cons dark]
    rw [kept, dropEndBlanks, List.reverse_append, dropBlanks_append blank'.reverse,
      dropBlanks_reverse_of_isFramed (framed empty), List.reverse_reverse]

/-- What trimming leaves has no blanks around it. -/
theorem dropBlanks_eq_trim (cs : List Char) :
    ∃ back, AllBlank back ∧ dropBlanks cs = trim cs ++ back ∧
      (trim cs ≠ [] → isFramed (trim cs)) := by
  obtain ⟨back, blank, shape⟩ := dropBlanks_split (dropBlanks cs).reverse
  have whole : dropBlanks cs = trim cs ++ back.reverse := by
    rw [← List.reverse_inj, shape, List.reverse_append, List.reverse_reverse, trim, dropEndBlanks,
      List.reverse_reverse]
  refine ⟨back.reverse, blank.reverse, whole, fun filled => ?_⟩
  obtain ⟨first, rest, starts⟩ := List.exists_cons_of_ne_nil filled
  obtain ⟨last, later, ends⟩ := List.exists_cons_of_ne_nil (List.reverse_ne_nil_iff.mpr filled)
  rw [starts] at whole
  rw [trim, dropEndBlanks, List.reverse_reverse] at ends
  refine isFramed_iff.mpr ⟨first, rest, later.reverse, last, starts, ?_, dark_of_dropBlanks whole,
    dark_of_dropBlanks ends⟩
  rw [trim, dropEndBlanks, ends, List.reverse_cons]

theorem dropBlanks_takeWhile (p : Char → Bool) (cs : List Char) :
    dropBlanks ((dropBlanks cs).takeWhile p) = (dropBlanks cs).takeWhile p := by
  cases shape : dropBlanks cs with
  | nil => rfl
  | cons c rest =>
      rw [List.takeWhile_cons]
      split
      · exact dropBlanks_cons (dark_of_dropBlanks shape)
      · rfl

end Text

/-! ### The grammar -/

namespace ArrayItem

/-- How strictly the items of a literal are taken. -/
structure Grammar where
  /-- Nothing at all may stand for an item. -/
  emptyItems : Bool
  /-- Braces may hold blanks only. -/
  blankBraces : Bool

/-- A text behind an opening quote, through the closing one, and what it stands for. -/
inductive IsQuoted : List Char → List Char → Prop
  | close : IsQuoted ['"'] []
  | escape {c : Char} {cs s : List Char} : IsQuoted cs s → IsQuoted ('\\' :: c :: cs) (c :: s)
  | plain {c : Char} {cs s : List Char} : c ≠ '"' → c ≠ '\\' → IsQuoted cs s →
      IsQuoted (c :: cs) (c :: s)

/-- A text without quotes: it goes on to a comma or a closing brace, and blanks around it do not
belong to it. -/
structure IsBare (cs : List Char) : Prop where
  through : ∀ c ∈ cs, isEnd c = false
  starts : cs.head? ≠ some '\x7b' ∧ cs.head? ≠ some '"'
  framed : cs ≠ [] → Text.isFramed cs

/-- What a text without quotes stands for. -/
def ofWord (cs : List Char) : ArrayItem :=
  if cs.map Numeral.lowerAscii = ['n', 'u', 'l', 'l'] then .null else .text (String.ofList cs)

namespace Grammar

open Text (AllBlank)

mutual

inductive Item (g : Grammar) : List Char → ArrayItem → Prop
  | nested {cs : List Char} {items : List ArrayItem} : Body g cs items →
      Item g ('\x7b' :: cs) (nested items)
  | quoted {cs s : List Char} : IsQuoted cs s → Item g ('"' :: cs) (text (String.ofList s))
  | bare {cs : List Char} : IsBare cs → (cs = [] → g.emptyItems) → Item g cs (ofWord cs)

/-- What is behind an opening brace, through the closing one. Nothing between them is always the
empty array. -/
inductive Body (g : Grammar) : List Char → List ArrayItem → Prop
  | hollow {blanks : List Char} : AllBlank blanks → (blanks ≠ [] → g.blankBraces) →
      Body g (blanks ++ ['\x7d']) []
  | filled {cs : List Char} {items : List ArrayItem} : cs ≠ ['\x7d'] → Items g cs items →
      Body g cs items

/-- Items with commas between them, through the closing brace. -/
inductive Items (g : Grammar) : List Char → List ArrayItem → Prop
  | last {front cs back : List Char} {item : ArrayItem} : AllBlank front → Item g cs item →
      AllBlank back → Items g (front ++ cs ++ back ++ ['\x7d']) [item]
  | more {front cs back rest : List Char} {item : ArrayItem} {items : List ArrayItem} :
      AllBlank front → Item g cs item → AllBlank back → Items g rest items →
      Items g (front ++ cs ++ back ++ ',' :: rest) (item :: items)

end

/-- A whole literal, with blanks around it. -/
def Reads (g : Grammar) (s : String) (items : List ArrayItem) : Prop :=
  ∃ front body back, AllBlank front ∧ AllBlank back ∧ s.toList = front ++ '\x7b' :: body ++ back ∧
    Body g body items

/-- Literals as they are read: nothing at all between commas is the empty text, and so are blanks
between braces. -/
def read : Grammar := ⟨true, false⟩

/-- Literals as they are described: there are no empty items, and braces that hold blanks only are
the empty array. -/
def described : Grammar := ⟨false, true⟩

/-- Literals without empty items or blanks between braces. -/
def common : Grammar := ⟨false, false⟩

end Grammar

/-! ### Reading -/

variable {cs rest s tail : List Char} {item : ArrayItem} {items : List ArrayItem} {fuel : Nat}

theorem quoted?_eq_some_iff :
    quoted? cs = some (s, rest) ↔ ∃ front, cs = front ++ rest ∧ IsQuoted front s := by
  constructor
  · intro given
    fun_induction quoted? cs generalizing s with
    | case1 => cases given
    | case2 rest =>
      cases given
      exact ⟨['"'], rfl, .close⟩
    | case3 c rest ih =>
      obtain ⟨⟨t, behind⟩, inner, same⟩ := Option.map_eq_some_iff.mp given
      cases same
      obtain ⟨front, rfl, quoted⟩ := ih inner
      exact ⟨'\\' :: c :: front, rfl, quoted.escape⟩
    | case4 => cases given
    | case5 c rest noQuote noEscape alone ih =>
      obtain ⟨⟨t, behind⟩, inner, same⟩ := Option.map_eq_some_iff.mp given
      cases same
      obtain ⟨front, rfl, quoted⟩ := ih inner
      have noEscape' : c ≠ '\\' := by
        rintro rfl
        cases behind : front ++ rest with
        | nil => exact alone rfl behind
        | cons d later => exact noEscape d later rfl behind
      exact ⟨c :: front, rfl, .plain noQuote noEscape' quoted⟩
  · rintro ⟨front, rfl, quoted⟩
    induction quoted with
    | close => rfl
    | escape _ ih =>
      simp [quoted?, ih]
    | plain noQuote noEscape _ ih =>
      rw [List.cons_append, quoted?, ih]
      · rfl
      · exact noQuote
      · exact fun _ _ same => absurd same noEscape
      · exact fun same => absurd same noEscape

/-- What a reader of bodies promises: it takes off the body that it reads. -/
def Follows (g : Grammar) (body : List Char → Option (List ArrayItem × List Char)) : Prop :=
  ∀ cs items rest, body cs = some (items, rest) → ∃ front, cs = front ++ rest ∧ g.Body front items

open Text (AllBlank allBlank_nil dropBlanks_split dropBlanks_append trim_append)
open Grammar (read Item Body Items)

variable {body : List Char → Option (List ArrayItem × List Char)}

theorem isEnd_blank {c : Char} (ends : isEnd c) : Text.isBlank c = false := by
  simp only [isEnd, Bool.or_eq_true, beq_iff_eq] at ends
  rcases ends with rfl | rfl <;> decide

theorem ofBare_eq (cs : List Char) : ofBare cs = ofWord (Text.trim cs) := by
  simp only [ofBare, ofWord, beq_iff_eq]

/-- What is left of a text up to the end of the item. -/
theorem isBare_run {back : List Char} (shape : cs.takeWhile (!isEnd ·) = s ++ back)
    (framed : s ≠ [] → Text.isFramed s) (noBrace : ∀ rest, cs ≠ '\x7b' :: rest)
    (noQuote : ∀ rest, cs ≠ '"' :: rest) : IsBare s := by
  have begins : ∀ d, s.head? = some d → ∃ later, cs = d :: later := by
    intro d first
    obtain ⟨later, rfl⟩ := List.head?_eq_some_iff.mp first
    have whole := List.takeWhile_append_dropWhile (p := (!isEnd ·)) (l := cs)
    rw [shape] at whole
    exact ⟨_, whole.symm⟩
  refine ⟨fun c member => ?_, ⟨fun brace => ?_, fun quote => ?_⟩, framed⟩
  · have inside : c ∈ cs.takeWhile (!isEnd ·) := shape ▸ List.mem_append_left back member
    simpa using List.all_eq_true.mp List.all_takeWhile c inside
  · obtain ⟨later, opened⟩ := begins _ brace
    exact noBrace later opened
  · obtain ⟨later, opened⟩ := begins _ quote
    exact noQuote later opened

theorem item?_reads (inner : Follows read body) (given : item? body cs = some (item, rest)) :
    ∃ front word back, cs = front ++ word ++ back ++ rest ∧ AllBlank front ∧ AllBlank back ∧
      read.Item word item := by
  obtain ⟨front, blank, shape⟩ := dropBlanks_split cs
  unfold item? at given
  split at given
  · cases given
  · rename_i later opened
    obtain ⟨⟨items, behind⟩, within, same⟩ := Option.map_eq_some_iff.mp given
    cases same
    obtain ⟨text, rfl, reads⟩ := inner _ _ _ within
    refine ⟨front, _, [], ?_, blank, allBlank_nil, .nested reads⟩
    rw [shape, opened]
    simp
  · rename_i later opened
    obtain ⟨⟨s, behind⟩, within, same⟩ := Option.map_eq_some_iff.mp given
    cases same
    obtain ⟨text, rfl, quoted⟩ := quoted?_eq_some_iff.mp within
    refine ⟨front, _, [], ?_, blank, allBlank_nil, .quoted quoted⟩
    rw [shape, opened]
    simp
  · rename_i kept noBrace noQuote
    cases given
    obtain ⟨back, blank', trimmed, framed⟩ :=
      Text.dropBlanks_eq_trim ((Text.dropBlanks cs).takeWhile (!isEnd ·))
    rw [Text.dropBlanks_takeWhile] at trimmed
    refine ⟨front, Text.trim ((Text.dropBlanks cs).takeWhile (!isEnd ·)), back, ?_, blank,
      blank', ?_⟩
    · rw [List.append_assoc front, List.append_assoc front, ← trimmed,
        List.takeWhile_append_dropWhile]
      exact shape
    · rw [ofBare_eq]
      exact .bare (isBare_run trimmed framed noBrace noQuote) fun _ => rfl

theorem follows_body? (fuel : Nat) : Follows read (body? fuel) ∧
    ∀ cs items rest, items? fuel cs = some (items, rest) →
      ∃ front, cs = front ++ rest ∧ read.Items front items := by
  induction fuel with
  | zero => exact ⟨nofun, nofun⟩
  | succ fuel ih =>
      refine ⟨fun cs items rest given => ?_, fun cs items rest given => ?_⟩
      · unfold body? at given
        split at given
        · cases given
          exact ⟨['\x7d'], rfl, @Body.hollow _ [] allBlank_nil (absurd rfl)⟩
        · rename_i open_
          obtain ⟨front, rfl, reads⟩ := ih.2 _ _ _ given
          refine ⟨front, rfl, .filled ?_ reads⟩
          rintro rfl
          exact open_ _ rfl
      · unfold items? at given
        obtain ⟨⟨item, later⟩, first, continued⟩ := Option.bind_eq_some_iff.mp given
        dsimp only at continued
        obtain ⟨front, word, back, rfl, blank, blank', reads⟩ := item?_reads ih.1 first
        obtain ⟨more, blank'', shape⟩ := dropBlanks_split later
        split at continued
        · rename_i behind comma
          obtain ⟨⟨others, last⟩, following, same⟩ := Option.map_eq_some_iff.mp continued
          cases same
          obtain ⟨text, rfl, readsLater⟩ := ih.2 _ _ _ following
          refine ⟨_, ?_, .more blank reads (blank'.append blank'') readsLater⟩
          rw [shape, comma]
          simp
        · rename_i behind closing
          cases continued
          refine ⟨_, ?_, .last blank reads (blank'.append blank'')⟩
          rw [shape, closing]
          simp
        · cases continued

/-! ### Literals are read -/

theorem IsBare.head {c : Char} (bare : IsBare (c :: cs)) :
    c ≠ '\x7b' ∧ c ≠ '"' ∧ Text.isBlank c = false := by
  obtain ⟨first, rest, -, -, shape, -, dark, -⟩ :=
    Text.isFramed_iff.mp (bare.framed (List.cons_ne_nil c cs))
  cases shape
  exact ⟨fun same => bare.starts.1 (congrArg some same),
    fun same => bare.starts.2 (congrArg some same), dark⟩

section Steps

variable {front back left : List Char} {d : Char}

theorem isEnd_of_isBlank (blank : AllBlank back) : ∀ c ∈ back, (!isEnd c) = true := by
  intro c member
  cases ends : isEnd c with
  | false => rfl
  | true => exact absurd (blank c member) (by simp [isEnd_blank ends])

theorem item?_nested (blank : AllBlank front) (inner : body (cs ++ left) = some (items, left)) :
    item? body (front ++ '\x7b' :: cs ++ left) = some (nested items, left) := by
  rw [List.append_assoc, item?, dropBlanks_append blank, List.cons_append,
    Text.dropBlanks_cons (by decide)]
  simp only [inner, Option.map_some]

theorem item?_quoted (blank : AllBlank front) (quoted : IsQuoted cs s) :
    item? body (front ++ '"' :: cs ++ left) = some (text (String.ofList s), left) := by
  rw [List.append_assoc, item?, dropBlanks_append blank, List.cons_append,
    Text.dropBlanks_cons (by decide)]
  simp only [quoted?_eq_some_iff.mpr ⟨cs, rfl, quoted⟩, Option.map_some]

theorem item?_plain {c : Char} (shape : Text.dropBlanks cs = c :: rest) (noBrace : c ≠ '\x7b')
    (noQuote : c ≠ '"') : item? body cs =
      some (ofBare ((c :: rest).takeWhile (!isEnd ·)), (c :: rest).dropWhile (!isEnd ·)) := by
  unfold item?
  rw [shape]
  split
  · rename_i same
    cases same
  · rename_i same
    cases same
    exact absurd rfl noBrace
  · rename_i same
    cases same
    exact absurd rfl noQuote
  · rfl

/-- A text without quotes is read up to what ends it, the blanks behind it included. -/
theorem item?_bareWord (blank : AllBlank front) (bare : IsBare cs) (blank' : AllBlank back)
    (ends : isEnd d) :
    item? body (front ++ cs ++ back ++ d :: tail) = some (ofWord cs, d :: tail) := by
  have start : Text.dropBlanks (front ++ cs ++ back ++ d :: tail) =
      Text.dropBlanks (cs ++ back ++ d :: tail) := by
    rw [List.append_assoc front, List.append_assoc front, dropBlanks_append blank]
  cases cs with
  | nil =>
      have here : Text.dropBlanks (front ++ [] ++ back ++ d :: tail) = d :: tail := by
        rw [start, List.nil_append, dropBlanks_append blank',
          Text.dropBlanks_cons (isEnd_blank ends)]
      have other : d ≠ '\x7b' ∧ d ≠ '"' := by
        constructor <;> (rintro rfl; cases ends)
      rw [item?_plain here other.1 other.2, List.takeWhile_cons_of_neg (by simp [ends]),
        List.dropWhile_cons_of_neg (by simp [ends])]
      rfl
  | cons c rest =>
      obtain ⟨noBrace, noQuote, dark⟩ := bare.head
      have goesOn : ∀ e ∈ c :: rest ++ back, (!isEnd e) = true := List.forall_mem_append.mpr
        ⟨fun e member => by simp [bare.through e member], isEnd_of_isBlank blank'⟩
      have word : ofBare (c :: rest ++ back) = ofWord (c :: rest) := by
        have trimmed : Text.trim ([] ++ (c :: rest) ++ back) = c :: rest :=
          trim_append allBlank_nil blank' bare.framed
        rw [List.nil_append] at trimmed
        rw [ofBare_eq, trimmed]
      rw [List.cons_append, List.cons_append, Text.dropBlanks_cons dark] at start
      rw [item?_plain start noBrace noQuote, ← List.cons_append, ← List.cons_append,
        List.takeWhile_append_of_pos goesOn, List.dropWhile_append_of_pos goesOn,
        List.takeWhile_cons_of_neg (by simp [ends]), List.dropWhile_cons_of_neg (by simp [ends]),
        List.append_nil, word]

theorem Grammar.Item.goesOn {g : Grammar} {c : Char} (reads : g.Item (c :: rest) item) :
    isEnd c = false := by
  cases reads with
  | nested => decide
  | quoted => decide
  | bare bare _ => exact bare.through c List.mem_cons_self

theorem nil_of_isEnd (blank : AllBlank back) (ends : isEnd d)
    (first : ∀ c rest, back = c :: rest → c = d) : back = [] := by
  cases back with
  | nil => rfl
  | cons c rest =>
      obtain rfl := first c rest rfl
      exact absurd (blank c List.mem_cons_self) (by simp [isEnd_blank ends])

/-- Where the end of an item comes first, there is nothing in front of it. -/
theorem nothing_before {g : Grammar} {e : Char} (blank : AllBlank front) (reads : g.Item cs item)
    (blank' : AllBlank back) (ends : isEnd d)
    (same : d :: rest = front ++ cs ++ back ++ e :: tail) : d = e ∧ rest = tail := by
  obtain rfl : front = [] := nil_of_isEnd blank ends (by rintro c _ rfl; cases same; rfl)
  obtain rfl : cs = [] := by
    cases cs with
    | nil => rfl
    | cons c more =>
        cases same
        exact absurd ends (by simp [reads.goesOn])
  obtain rfl : back = [] := nil_of_isEnd blank' ends (by rintro c _ rfl; cases same; rfl)
  cases same
  exact ⟨rfl, rfl⟩

/-- Items begin with a closing brace only if nothing stands for a single one. -/
theorem items_closed {g : Grammar} (reads : g.Items ('\x7d' :: rest) items) : rest = [] := by
  generalize shape : '\x7d' :: rest = cs at reads
  cases reads with
  | last blank reads blank' => exact (nothing_before blank reads blank' rfl shape).2
  | more blank reads blank' _ =>
      exact absurd (nothing_before blank reads blank' rfl shape).1 (by decide)

theorem items_ne_nil {g : Grammar} (reads : g.Items cs items) : cs ≠ [] := by
  cases reads <;> simp

theorem items_close {g : Grammar} {cs : List Char} {items : List ArrayItem}
    (reads : g.Items cs items) : ∃ most, cs = most ++ ['\x7d'] :=
  match cs, items, reads with
  | _, _, .last .. => ⟨_, rfl⟩
  | _, _, @Items.more _ front word back _ _ _ _ _ _ later => by
      obtain ⟨most, rfl⟩ := items_close later
      exact ⟨front ++ word ++ back ++ ',' :: most, by simp⟩

theorem body_closes {g : Grammar} (reads : g.Body cs items) : ∃ most, cs = most ++ ['\x7d'] := by
  cases reads with
  | hollow => exact ⟨_, rfl⟩
  | filled _ reads => exact items_close reads

theorem body?_filled (different : cs ≠ ['\x7d']) (reads : read.Items cs items)
    (given : items? fuel (cs ++ tail) = some (items, tail)) :
    body? (fuel + 1) (cs ++ tail) = some (items, tail) := by
  unfold body?
  split
  · rename_i shape
    obtain ⟨c, rest, rfl⟩ := List.exists_cons_of_ne_nil (items_ne_nil reads)
    cases shape
    obtain rfl := items_closed reads
    exact absurd rfl different
  · exact given

theorem items?_last {left : List Char} (first : item? (body? fuel) cs = some (item, left))
    (behind : Text.dropBlanks left = '\x7d' :: tail) :
    items? (fuel + 1) cs = some ([item], tail) := by
  rw [items?, first]
  simp only [Option.bind_eq_bind, Option.bind_some, behind]

theorem items?_more {left : List Char} (first : item? (body? fuel) cs = some (item, left))
    (behind : Text.dropBlanks left = ',' :: rest) (later : items? fuel rest = some (items, tail)) :
    items? (fuel + 1) cs = some (item :: items, tail) := by
  rw [items?, first]
  simp only [Option.bind_eq_bind, Option.bind_some, behind, later, Option.map_some]

end Steps

mutual

theorem item?_of_item {fuel : Nat} {cs : List Char} {item : ArrayItem} (reads : read.Item cs item)
    {front back tail : List Char} {d : Char} (enough : 2 * cs.length ≤ fuel)
    (blank : AllBlank front) (blank' : AllBlank back) (ends : isEnd d) :
    ∃ left, item? (body? fuel) (front ++ cs ++ back ++ d :: tail) = some (item, left) ∧
      Text.dropBlanks left = d :: tail :=
  match cs, item, reads with
  | _, _, .nested reads => by
      refine ⟨back ++ d :: tail, ?_, ?_⟩
      · rw [List.append_assoc _ back]
        exact item?_nested blank (body?_of_body reads (by rw [List.length_cons] at enough; omega))
      · rw [dropBlanks_append blank', Text.dropBlanks_cons (isEnd_blank ends)]
  | _, _, .quoted quoted => by
      refine ⟨back ++ d :: tail, ?_, ?_⟩
      · rw [List.append_assoc _ back]
        exact item?_quoted blank quoted
      · rw [dropBlanks_append blank', Text.dropBlanks_cons (isEnd_blank ends)]
  | _, _, .bare bare _ =>
      ⟨_, item?_bareWord blank bare blank' ends, Text.dropBlanks_cons (isEnd_blank ends)⟩

theorem body?_of_body {fuel : Nat} {cs tail : List Char} {items : List ArrayItem}
    (reads : read.Body cs items) (enough : 2 * cs.length < fuel) :
    body? fuel (cs ++ tail) = some (items, tail) :=
  match cs, items, reads with
  | _, _, @Body.hollow _ blanks blank allowed => by
      obtain ⟨fuel, rfl⟩ : ∃ f, fuel = f + 1 := ⟨fuel - 1, by omega⟩
      obtain rfl : blanks = [] :=
        Decidable.byContradiction fun filled => Bool.false_ne_true (allowed filled)
      rfl
  | _, _, .filled different reads => by
      obtain ⟨fuel, rfl⟩ : ∃ f, fuel = f + 1 := ⟨fuel - 1, by omega⟩
      exact body?_filled different reads (items?_of_items reads (by omega))

theorem items?_of_items {fuel : Nat} {cs tail : List Char} {items : List ArrayItem}
    (reads : read.Items cs items) (enough : 2 * cs.length ≤ fuel) :
    items? fuel (cs ++ tail) = some (items, tail) :=
  match cs, items, reads with
  | _, _, @Items.last _ front word back item blank reads blank' => by
      simp only [List.length_append, List.length_singleton] at enough
      obtain ⟨fuel, rfl⟩ : ∃ f, fuel = f + 1 := ⟨fuel - 1, by omega⟩
      obtain ⟨left, first, behind⟩ :
          ∃ left, item? (body? fuel) (front ++ word ++ back ++ '\x7d' :: tail) =
              some (item, left) ∧
            Text.dropBlanks left = '\x7d' :: tail :=
        item?_of_item reads (by omega) blank blank' rfl
      rw [List.append_assoc]
      exact items?_last first behind
  | _, _, @Items.more _ front word back rest item items blank reads blank' readsLater => by
      simp only [List.length_append, List.length_cons] at enough
      obtain ⟨fuel, rfl⟩ : ∃ f, fuel = f + 1 := ⟨fuel - 1, by omega⟩
      have later : items? fuel (rest ++ tail) = some (items, tail) :=
        items?_of_items readsLater (by omega)
      obtain ⟨left, first, behind⟩ :
          ∃ left, item? (body? fuel) (front ++ word ++ back ++ ',' :: (rest ++ tail)) =
              some (item, left) ∧
            Text.dropBlanks left = ',' :: (rest ++ tail) :=
        item?_of_item reads (by omega) blank blank' rfl
      rw [List.append_assoc]
      exact items?_more first behind later

end

/-- The texts that are read, and what they are read as. -/
theorem ofText?_eq_some_iff {text : String} :
    ofText? text = some items ↔ read.Reads text items := by
  constructor
  · intro given
    unfold ofText? at given
    split at given
    · rename_i rest opened
      split at given
      · rename_i found within
        cases given
        obtain ⟨body, shape, reads⟩ := (follows_body? _).1 _ _ _ within
        rw [List.append_nil] at shape
        obtain ⟨front, blank, whole⟩ := dropBlanks_split text.toList
        obtain ⟨back, blank', trimmed, -⟩ := Text.dropBlanks_eq_trim text.toList
        refine ⟨front, body, back, blank, blank', ?_, reads⟩
        rw [whole, trimmed, opened, shape, List.append_assoc]
      · cases given
    · cases given
  · rintro ⟨front, body, back, blank, blank', shape, reads⟩
    have framed : Text.isFramed ('\x7b' :: body) := by
      obtain ⟨most, closes⟩ := body_closes reads
      exact Text.isFramed_iff.mpr
        ⟨'\x7b', body, '\x7b' :: most, '\x7d', rfl, by rw [closes]; rfl, by decide, by decide⟩
    have whole : body? (2 * body.length + 2) (body ++ []) = some (items, []) :=
      body?_of_body reads (by omega)
    rw [List.append_nil] at whole
    rw [ofText?, shape, trim_append blank blank' fun _ => framed]
    simp only [whole]

/-! ### Readings and descriptions -/

namespace Grammar

/-- Whatever the one grammar allows, the other one allows. -/
structure Allows (g h : Grammar) : Prop where
  emptyItems : g.emptyItems → h.emptyItems
  blankBraces : g.blankBraces → h.blankBraces

mutual

theorem Item.mono {g h : Grammar} {cs : List Char} {item : ArrayItem} (wider : Allows g h)
    (reads : g.Item cs item) : h.Item cs item :=
  match cs, item, reads with
  | _, _, .nested reads => .nested (Body.mono wider reads)
  | _, _, .quoted quoted => .quoted quoted
  | _, _, .bare bare allowed => .bare bare fun empty => wider.emptyItems (allowed empty)

theorem Body.mono {g h : Grammar} {cs : List Char} {items : List ArrayItem} (wider : Allows g h)
    (reads : g.Body cs items) : h.Body cs items :=
  match cs, items, reads with
  | _, _, .hollow blank allowed => .hollow blank fun filled => wider.blankBraces (allowed filled)
  | _, _, .filled different reads => .filled different (Items.mono wider reads)

theorem Items.mono {g h : Grammar} {cs : List Char} {items : List ArrayItem} (wider : Allows g h)
    (reads : g.Items cs items) : h.Items cs items :=
  match cs, items, reads with
  | _, _, .last blank reads blank' => .last blank (Item.mono wider reads) blank'
  | _, _, .more blank reads blank' later =>
      .more blank (Item.mono wider reads) blank' (Items.mono wider later)

end

theorem Reads.mono {g h : Grammar} {text : String} (wider : Allows g h)
    (reads : g.Reads text items) : h.Reads text items := by
  obtain ⟨front, body, back, blank, blank', shape, reads⟩ := reads
  exact ⟨front, body, back, blank, blank', shape, reads.mono wider⟩

theorem common_allows (g : Grammar) : Allows common g := ⟨nofun, nofun⟩

mutual

/-- What is described is read, and as described only if there are no braces with blanks only. -/
theorem Item.read_of_described {cs : List Char} {item : ArrayItem}
    (reads : described.Item cs item) :
    ∃ other, read.Item cs other ∧ (other = item → common.Item cs item) :=
  match cs, item, reads with
  | _, _, .nested reads => by
      obtain ⟨others, taken, same⟩ := Body.read_of_described reads
      exact ⟨_, .nested taken, fun equal => .nested (same (by cases equal; rfl))⟩
  | _, _, .quoted quoted => ⟨_, .quoted quoted, fun _ => .quoted quoted⟩
  | _, _, .bare bare allowed => ⟨_, .bare bare fun _ => rfl, fun _ => .bare bare allowed⟩

theorem Body.read_of_described {cs : List Char} {items : List ArrayItem}
    (reads : described.Body cs items) :
    ∃ others, read.Body cs others ∧ (others = items → common.Body cs items) :=
  match cs, items, reads with
  | _, _, @Body.hollow _ blanks blank _ => by
      by_cases none : blanks = []
      · exact ⟨[], .hollow blank (absurd none), fun _ => .hollow blank (absurd none)⟩
      · -- the blanks are in front of an item that is not there
        have word : IsBare [] := ⟨nofun, ⟨nofun, nofun⟩, absurd rfl⟩
        have single := Items.last blank (Item.bare (g := read) word fun _ => rfl) allBlank_nil
        rw [List.append_nil, List.append_nil] at single
        exact ⟨_, .filled (by simp [none]) single, nofun⟩
  | _, _, .filled different reads => by
      obtain ⟨others, taken, same⟩ := Items.read_of_described reads
      exact ⟨others, .filled different taken, fun equal => .filled different (same equal)⟩

theorem Items.read_of_described {cs : List Char} {items : List ArrayItem}
    (reads : described.Items cs items) :
    ∃ others, read.Items cs others ∧ (others = items → common.Items cs items) :=
  match cs, items, reads with
  | _, _, .last blank reads blank' => by
      obtain ⟨other, taken, same⟩ := Item.read_of_described reads
      exact ⟨[other], .last blank taken blank', fun equal =>
        .last blank (same (List.cons.inj equal).1) blank'⟩
  | _, _, .more blank reads blank' later => by
      obtain ⟨other, taken, same⟩ := Item.read_of_described reads
      obtain ⟨others, takenLater, sameLater⟩ := Items.read_of_described later
      exact ⟨other :: others, .more blank taken blank' takenLater, fun equal =>
        .more blank (same (List.cons.inj equal).1) blank' (sameLater (List.cons.inj equal).2)⟩

end

end Grammar

open Grammar (described common common_allows)

theorem ofText?_of_described {text : String} (reads : described.Reads text items) :
    ∃ others, ofText? text = some others ∧ (others = items → common.Reads text items) := by
  obtain ⟨front, body, back, blank, blank', shape, reads⟩ := reads
  obtain ⟨others, taken, same⟩ := reads.read_of_described
  exact ⟨others, ofText?_eq_some_iff.mpr ⟨front, body, back, blank, blank', shape, taken⟩,
    fun equal => ⟨front, body, back, blank, blank', shape, same equal⟩⟩

/-- The texts that are read as described have no empty items and no braces with blanks only. -/
theorem ofText?_described_iff {text : String} :
    ofText? text = some items ∧ described.Reads text items ↔ common.Reads text items := by
  constructor
  · rintro ⟨given, reads⟩
    obtain ⟨others, taken, same⟩ := ofText?_of_described reads
    exact same (Option.some.inj (taken.symm.trans given))
  · intro reads
    exact ⟨ofText?_eq_some_iff.mpr (reads.mono (common_allows read)),
      reads.mono (common_allows described)⟩

/-! ### Empty texts -/

mutual

/-- Whether there is an empty text in an item, at any depth. -/
def hasEmpty : ArrayItem → Bool
  | .null => false
  | .text s => s.isEmpty
  | .nested items => anyEmpty items

def anyEmpty : List ArrayItem → Bool
  | [] => false
  | item :: rest => hasEmpty item || anyEmpty rest

end

theorem hasEmpty_ofWord (cs : List Char) : (ofWord cs).hasEmpty = cs.isEmpty := by
  unfold ofWord
  split
  · rename_i word
    cases cs with
    | nil => cases word
    | cons c rest => rfl
  · rw [hasEmpty, Bool.eq_iff_iff, String.isEmpty_iff, List.isEmpty_iff, String.ofList_eq_empty_iff]

mutual

theorem Grammar.Item.common_of_filled {cs : List Char} {item : ArrayItem}
    (reads : read.Item cs item) (filled : item.hasEmpty = false) : common.Item cs item :=
  match cs, item, reads with
  | _, _, .nested reads => .nested (Grammar.Body.common_of_filled reads filled)
  | _, _, .quoted quoted => .quoted quoted
  | _, _, .bare bare _ => .bare bare (by rintro rfl; cases filled)

theorem Grammar.Body.common_of_filled {cs : List Char} {items : List ArrayItem}
    (reads : read.Body cs items) (filled : anyEmpty items = false) : common.Body cs items :=
  match cs, items, reads with
  | _, _, .hollow blank allowed => .hollow blank allowed
  | _, _, .filled different reads => .filled different (Grammar.Items.common_of_filled reads filled)

theorem Grammar.Items.common_of_filled {cs : List Char} {items : List ArrayItem}
    (reads : read.Items cs items) (filled : anyEmpty items = false) : common.Items cs items :=
  match cs, items, reads with
  | _, _, .last blank reads blank' => by
      rw [anyEmpty, Bool.or_eq_false_iff] at filled
      exact .last blank (Grammar.Item.common_of_filled reads filled.1) blank'
  | _, _, .more blank reads blank' later => by
      rw [anyEmpty, Bool.or_eq_false_iff] at filled
      exact .more blank (Grammar.Item.common_of_filled reads filled.1) blank'
        (Grammar.Items.common_of_filled later filled.2)

end

mutual

/-- Only quotes stand for an empty text where there are no empty items. -/
theorem Grammar.Item.quote_of_empty {cs : List Char} {item : ArrayItem}
    (reads : described.Item cs item) (empty : item.hasEmpty) : '"' ∈ cs :=
  match cs, item, reads with
  | _, _, .nested reads => List.mem_cons_of_mem _ (Grammar.Body.quote_of_empty reads empty)
  | _, _, .quoted _ => List.mem_cons_self
  | _, _, .bare _ allowed => by
      rw [hasEmpty_ofWord, List.isEmpty_iff] at empty
      exact absurd (allowed empty) Bool.false_ne_true

theorem Grammar.Body.quote_of_empty {cs : List Char} {items : List ArrayItem}
    (reads : described.Body cs items) (empty : anyEmpty items) : '"' ∈ cs :=
  match cs, items, reads with
  | _, _, .hollow _ _ => nomatch empty
  | _, _, .filled _ reads => Grammar.Items.quote_of_empty reads empty

theorem Grammar.Items.quote_of_empty {cs : List Char} {items : List ArrayItem}
    (reads : described.Items cs items) (empty : anyEmpty items) : '"' ∈ cs :=
  match cs, items, reads with
  | _, _, .last _ reads _ => by
      rw [anyEmpty, anyEmpty, Bool.or_false] at empty
      simp [Grammar.Item.quote_of_empty reads empty]
  | _, _, .more _ reads _ later => by
      rw [anyEmpty, Bool.or_eq_true] at empty
      rcases empty with here | there
      · simp [Grammar.Item.quote_of_empty reads here]
      · simp [Grammar.Items.quote_of_empty later there]

end

/-- A reading without empty texts is as described. -/
theorem common_of_filled {text : String} (given : ofText? text = some items)
    (filled : anyEmpty items = false) : common.Reads text items := by
  obtain ⟨front, body, back, blank, blank', shape, reads⟩ := ofText?_eq_some_iff.mp given
  exact ⟨front, body, back, blank, blank', shape, reads.common_of_filled filled⟩

/-- Without quotes a reading is as described exactly if there are no empty texts in it. -/
theorem described_iff_filled {text : String} (given : ofText? text = some items)
    (unquoted : '"' ∉ text.toList) : described.Reads text items ↔ anyEmpty items = false := by
  constructor
  · rintro ⟨front, body, back, -, -, shape, reads⟩
    refine Bool.eq_false_iff.mpr fun empty => unquoted ?_
    rw [shape]
    simp [reads.quote_of_empty empty]
  · intro filled
    exact (common_of_filled given filled).mono (common_allows described)

/-- Braces that hold a blank are not read as the empty array, and a comma behind the last item is
read as one more. -/
theorem exampleBlank_misread :
    described.Reads "\x7b \x7d" [] ∧ ofText? "\x7b \x7d" = some [text ""] ∧
      ofText? "\x7b1,\x7d" = some [text "1", text ""] ∧
        ¬described.Reads "\x7b1,\x7d" [text "1", text ""] := by
  have trailing : ofText? "\x7b1,\x7d" = some [text "1", text ""] := by rfl
  have blank : AllBlank [' '] := List.forall_mem_singleton.mpr (by decide)
  refine ⟨⟨[], _, [], allBlank_nil, allBlank_nil, rfl, .hollow blank fun _ => rfl⟩, by rfl,
    trailing, ?_⟩
  rw [described_iff_filled trailing (by decide)]
  decide

end ArrayItem

end SqlEngine
