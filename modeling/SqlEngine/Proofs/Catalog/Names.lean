import SqlEngine.Catalog.Name
import SqlEngine.Proofs.Number.Reading
import SqlEngine.Proofs.Text.LowerCase
import SqlEngine.Types.TypeName

/-!
Names read back from the text they are written in.

The name of a type that is not declared by the user refers to that type, whatever its bound and the
number of its dimensions: array suffixes come off one by one, and the parentheses around the bound
leave the words of the name. A name with dots is read in parts that lose their quotes and fold to
lower case, so only names in a plain form stand for themselves.
-/

namespace SqlEngine

/-! ### Bounds in names of types -/

namespace Numeral

variable {n : Nat}

theorem isDigit_toDigits : ∀ c ∈ Nat.toDigits 10 n, c.isDigit :=
  fun _ member => Nat.isDigit_of_mem_toDigits (by decide) (by decide) member

theorem nat32?_toDigits (small : n < Nat.pow 2 32) :
    nat32? (String.ofList (Nat.toDigits 10 n)) = some n := by
  rw [nat32?, String.toList_ofList]
  split
  · rename_i rest shape
    exact absurd (isDigit_toDigits (n := n) '+' (by simp [shape])) (by decide)
  · simp [natural?_toDigits, small]

end Numeral

namespace TypeName

/-- Neither parenthesis. -/
def isPlain (c : Char) : Bool := c != '(' && c != ')'

theorem isPlain_of_isDigit {c : Char} (digit : c.isDigit) : isPlain c := by
  rw [isPlain, Bool.and_eq_true, bne_iff_ne, bne_iff_ne]
  constructor <;> rintro rfl <;> cases digit

theorem splitParams_cons (depth : Int) (param : List Char) (c : Char) (rest : List Char) :
    splitParams depth param (c :: rest) =
      if c == '(' then splitParams (depth + 1) param rest
      else if c == ')' then
        ((splitParams (depth - 1) [] rest).1,
          readParams param.reverse ++ (splitParams (depth - 1) [] rest).2)
      else if 0 < depth then splitParams depth (c :: param) rest
      else (c :: (splitParams depth param rest).1, (splitParams depth param rest).2) := rfl

theorem splitParams_plain {base : List Char} (plain : ∀ c ∈ base, isPlain c) (rest : List Char) :
    splitParams 0 [] (base ++ rest) =
      (base ++ (splitParams 0 [] rest).1, (splitParams 0 [] rest).2) := by
  induction base with
  | nil => rfl
  | cons c base ih =>
      obtain ⟨first, plain⟩ := List.forall_mem_cons.mp plain
      simp only [isPlain, Bool.and_eq_true, bne_iff_ne] at first
      rw [List.cons_append, splitParams_cons, if_neg (by simpa using first.1),
        if_neg (by simpa using first.2), if_neg (by decide), ih plain, List.cons_append]

/-- Between parentheses characters are collected until the closing one. -/
theorem splitParams_inside {inner : List Char} (plain : ∀ c ∈ inner, isPlain c)
    (before : List Char) :
    splitParams 1 before (inner ++ [')']) = ([], readParams (before.reverse ++ inner)) := by
  induction inner generalizing before with
  | nil =>
      have closed : splitParams 1 before [')'] = ([], readParams before.reverse ++ []) := rfl
      rw [List.nil_append, closed, List.append_nil, List.append_nil]
  | cons c rest ih =>
      obtain ⟨first, plain⟩ := List.forall_mem_cons.mp plain
      simp only [isPlain, Bool.and_eq_true, bne_iff_ne] at first
      rw [List.cons_append, splitParams_cons, if_neg (by simpa using first.1),
        if_neg (by simpa using first.2), if_pos (by decide), ih plain, List.reverse_cons,
        List.append_assoc, List.singleton_append]

theorem readParams_toDigits {n : Nat} (small : n < Nat.pow 2 32) :
    readParams (Nat.toDigits 10 n) = [n] := by
  have whole : (Nat.toDigits 10 n).splitOn ',' = [Nat.toDigits 10 n] :=
    List.splitOn_eq_singleton fun member =>
      absurd (Numeral.isDigit_toDigits ',' member) (by decide)
  have trimmed : Text.trimmed (String.ofList (Nat.toDigits 10 n)) =
      String.ofList (Nat.toDigits 10 n) := by
    rw [Text.trimmed, String.toList_ofList, Text.trim_of_dark fun c member =>
      Text.not_isBlank_of_isDigit (Numeral.isDigit_toDigits c member)]
  rw [readParams, whole, List.map_singleton, trimmed, Numeral.nat32?_toDigits small]
  rfl

/-- A number in parentheses behind a name is its only parameter. -/
theorem splitParams_bounded {base : List Char} (plain : ∀ c ∈ base, isPlain c) {n : Nat}
    (small : n < Nat.pow 2 32) :
    splitParams 0 [] (base ++ '(' :: Nat.toDigits 10 n ++ [')']) = (base, [n]) := by
  have digits : ∀ c ∈ Nat.toDigits 10 n, isPlain c := fun c member =>
    isPlain_of_isDigit (Numeral.isDigit_toDigits c member)
  have opened : splitParams 0 [] ('(' :: (Nat.toDigits 10 n ++ [')'])) = ([], [n]) := by
    rw [splitParams_cons, if_pos (by decide)]
    exact (splitParams_inside digits []).trans (congrArg _ (readParams_toDigits small))
  rw [List.append_assoc, List.cons_append, splitParams_plain plain, opened, List.append_nil]

end TypeName

/-! ### Array suffixes -/

namespace Text

/-- Are there no blanks at the ends of the text, which is not empty? -/
def isFramed (cs : List Char) : Bool := cs.head?.any (!isBlank ·) && cs.getLast?.any (!isBlank ·)

variable {cs : List Char}

theorem isFramed_iff : isFramed cs ↔ ∃ first rest front last, cs = first :: rest ∧
    cs = front ++ [last] ∧ isBlank first = false ∧ isBlank last = false := by
  rw [isFramed, Bool.and_eq_true, Option.any_eq_true, Option.any_eq_true]
  constructor
  · rintro ⟨⟨first, starts, dark⟩, last, ends, dark'⟩
    obtain ⟨rest, starts⟩ := List.head?_eq_some_iff.mp starts
    obtain ⟨front, ends⟩ := List.getLast?_eq_some_iff.mp ends
    exact ⟨first, rest, front, last, starts, ends, by simpa using dark, by simpa using dark'⟩
  · rintro ⟨first, rest, front, last, starts, ends, dark, dark'⟩
    exact ⟨⟨first, List.head?_eq_some_iff.mpr ⟨rest, starts⟩, by simpa using dark⟩, last,
      List.getLast?_eq_some_iff.mpr ⟨front, ends⟩, by simpa using dark'⟩

theorem trim_of_isFramed (framed : isFramed cs) : trim cs = cs := by
  obtain ⟨first, rest, front, last, starts, ends, dark, dark'⟩ := isFramed_iff.mp framed
  exact trim_eq_self starts ends dark dark'

theorem dropBlanks_reverse_of_isFramed (framed : isFramed cs) :
    dropBlanks cs.reverse = cs.reverse := by
  obtain ⟨first, rest, front, last, starts, rfl, dark, dark'⟩ := isFramed_iff.mp framed
  rw [List.reverse_append, List.reverse_singleton, List.singleton_append]
  exact dropBlanks_cons dark'

theorem toList_append_brackets (text : String) :
    (text ++ "[]").toList = text.toList ++ ['['] ++ [']'] := by
  rw [String.toList_append, List.append_assoc]
  rfl

theorem isFramed_append {c : Char} (framed : isFramed cs) (front : List Char)
    (dark : isBlank c = false) : isFramed (cs ++ front ++ [c]) := by
  obtain ⟨first, rest, -, -, rfl, -, dark', -⟩ := isFramed_iff.mp framed
  exact isFramed_iff.mpr ⟨first, rest ++ front ++ [c], _, c, rfl, rfl, dark', dark⟩

end Text

namespace TypeName

/-- A text that does not end with a bracket refers to no array. -/
theorem ofText_of_last {text : String} (framed : Text.isFramed text.toList)
    (last : text.toList.getLast? ≠ some ']') :
    ofText text =
      let (base, params) := splitParams 0 [] text.toList
      let (schema, base) := DottedName.split base
      { schema, base, params, dims := 0 } := by
  have kept : dropSuffixes text.toList.reverse = (0, text.toList.reverse) := by
    rw [dropSuffixes]
    intro rest shape
    rw [← List.head?_reverse, shape] at last
    exact last rfl
  rw [ofText, Text.trim_of_isFramed framed, kept]
  simp only [List.reverse_reverse]

/-- A pair of brackets behind a text adds a dimension. -/
theorem ofText_brackets {text : String} (framed : Text.isFramed text.toList) :
    ofText (text ++ "[]") = { ofText text with dims := (ofText text).dims + 1 } := by
  have dark : Text.isBlank ']' = false := by decide
  have framed' := Text.isFramed_append framed ['['] dark
  have dropped : dropSuffixes (']' :: '[' :: text.toList.reverse) =
      ((dropSuffixes text.toList.reverse).1 + 1, (dropSuffixes text.toList.reverse).2) := by
    rw [dropSuffixes]
    split
    · rename_i inner found
      obtain rfl : text.toList.reverse = inner := Option.some.inj found
      rw [Text.dropBlanks_reverse_of_isFramed framed]
    · rename_i missing
      cases missing
  rw [ofText, ofText, Text.toList_append_brackets, Text.trim_of_isFramed framed',
    Text.trim_of_isFramed framed, List.reverse_append, List.reverse_append, List.reverse_singleton,
    List.reverse_singleton, List.singleton_append, List.singleton_append, dropped]

theorem builtin?_dims (n : TypeName) :
    { n with dims := n.dims + 1 }.builtin? = n.builtin?.map .array := by
  simp only [builtin?, Option.map_map]
  rfl

end TypeName

/-! ### Names of types -/

namespace SqlType

/-- Is the type called by its kind, through all dimensions? NULL and enumerations are not; bounds
have 32 bits. -/
def isBuiltin : SqlType → Bool
  | null | enum _ => false
  | text (some limit) => limit < Nat.pow 2 32
  | array element => element.isBuiltin
  | _ => true

/-- What the name of a built-in type refers to. -/
def reference : SqlType → TypeName
  | text (some limit) => ⟨none, "character varying", [limit], 0⟩
  | array element => { element.reference with dims := element.reference.dims + 1 }
  | type => ⟨none, type.kind.name, [], 0⟩

variable {type : SqlType}

theorem isBuiltin_array (element : SqlType) : element.array.isBuiltin = element.isBuiltin := rfl

theorem reference_array (element : SqlType) : element.array.reference =
    { element.reference with dims := element.reference.dims + 1 } := rfl

theorem name_array (element : SqlType) : element.array.name = element.name ++ "[]" := rfl

theorem name_bounded (limit : Nat) : (text (some limit)).name =
    "character varying(" ++ toString limit ++ ")" := rfl

theorem toList_name_bounded (limit : Nat) : (text (some limit)).name.toList =
    "character varying".toList ++ '(' :: Nat.toDigits 10 limit ++ [')'] := by
  have digits : (toString limit).toList = Nat.toDigits 10 limit := Nat.toList_repr
  have opened : "character varying(".toList = "character varying".toList ++ ['('] := by decide
  rw [name_bounded, String.toList_append, String.toList_append, digits, opened]
  simp

theorem isFramed_name (builtin : type.isBuiltin) : Text.isFramed type.name.toList := by
  induction type with
  | array element ih =>
      rw [isBuiltin_array] at builtin
      rw [name_array, Text.toList_append_brackets]
      exact Text.isFramed_append (ih builtin) _ (by decide)
  | text limit =>
      cases limit with
      | none => decide
      | some limit =>
          rw [toList_name_bounded]
          exact Text.isFramed_append (by decide) _ (by decide)
  | null | enum _ => cases builtin
  | _ => decide

theorem ofText_name (builtin : type.isBuiltin) : TypeName.ofText type.name = type.reference := by
  induction type with
  | array element ih =>
      rw [isBuiltin_array] at builtin
      rw [name_array, TypeName.ofText_brackets (isFramed_name builtin), ih builtin, reference_array]
  | text limit =>
      cases limit with
      | none =>
          rw [TypeName.ofText_of_last (by decide) (by decide)]
          decide
      | some limit =>
          have small : limit < Nat.pow 2 32 := of_decide_eq_true builtin
          have closed : (text (some limit)).name.toList.getLast? = some ')' := by
            rw [toList_name_bounded, List.getLast?_concat]
          have name : DottedName.split "character varying".toList =
              (none, "character varying") := by decide
          have plain : "character varying".toList.all TypeName.isPlain := by decide
          rw [TypeName.ofText_of_last (isFramed_name builtin) (by rw [closed]; decide),
            toList_name_bounded, TypeName.splitParams_bounded (List.all_eq_true.mp plain) small]
          simp only [name, reference]
  | null | enum _ => cases builtin
  | _ =>
      rw [TypeName.ofText_of_last (by decide) (by decide)]
      decide

theorem builtin?_reference (builtin : type.isBuiltin) : type.reference.builtin? = some type := by
  induction type with
  | array element ih =>
      rw [isBuiltin_array] at builtin
      rw [reference_array, TypeName.builtin?_dims, ih builtin, Option.map_some]
  | text limit =>
      cases limit with
      | none => decide
      | some limit =>
          have bounded : TypeName.boundedNames.contains "character varying" := by decide
          rw [reference, TypeName.builtin?, if_pos bounded]
          rfl
  | null | enum _ => cases builtin
  | _ => decide

theorem schema_reference (type : SqlType) : type.reference.schema = none := by
  fun_induction reference type <;> first | rfl | assumption

/-- The name of a built-in type, of any number of dimensions, refers to that type. -/
theorem builtin?_ofText_name (builtin : type.isBuiltin) :
    (TypeName.ofText type.name).builtin? = some type := by
  rw [ofText_name builtin, builtin?_reference builtin]

theorem builtin?_ofText_bounded_matrix :
    (TypeName.ofText "character varying(4294967295)[][]").builtin? =
      some (text (some 4294967295)).array.array := by
  have builtin : (text (some 4294967295)).array.array.isBuiltin := rfl
  have name : (text (some 4294967295)).array.array.name = "character varying(4294967295)[][]" := by
    decide
  have read := builtin?_ofText_name builtin
  rwa [name] at read

end SqlType

/-! ### Names with dots -/

namespace Text

/-- A sign that is no letter and no blank. -/
def isSign (c : Char) : Bool := 32 < c.toNat && c.toNat < 65

variable {c d : Char} {cs : List Char}

theorem ofNat_ne_of_isSign (sign : isSign d) {n : Nat} (high : 65 ≤ n) : Char.ofNat n ≠ d := by
  rintro rfl
  rw [isSign, Bool.and_eq_true, decide_eq_true_eq, decide_eq_true_eq] at sign
  by_cases valid : n.isValidChar
  · have same : (Char.ofNat n).toNat = n := by
      rw [Char.ofNat, dif_pos valid]
      rfl
    omega
  · have same : (Char.ofNat n).toNat = 0 := by
      rw [Char.ofNat, dif_neg valid]
      rfl
    omega

theorem mem_lowerChar (sign : isSign d) (member : d ∈ lowerChar c) : d = c := by
  have bounds : 32 < d.toNat ∧ d.toNat < 65 := by simpa [isSign] using sign
  unfold lowerChar at member
  split at member
  · rename_i ascii
    have fixed : 65 ≤ c.toLower.toNat ∨ c.toLower = c :=
      forall_ascii (P := fun c => 65 ≤ c.toLower.toNat ∨ c.toLower = c) (by decide) ascii
    obtain rfl := List.mem_singleton.mp member
    exact fixed.resolve_left (by omega)
  split at member
  · obtain rfl | member := List.mem_cons.mp member
    · cases sign
    · obtain rfl := List.mem_singleton.mp member
      cases sign
  · have same := List.mem_singleton.mp member
    cases found : shifted? lowerShifts c with
    | none => rwa [found] at same
    | some moved =>
        rw [found, Option.getD_some] at same
        obtain ⟨shift, known, rfl⟩ := Option.map_eq_some_iff.mp found
        have covers := List.find?_some known
        simp only [Bool.and_eq_true, decide_eq_true_eq] at covers
        have high : ∀ s ∈ lowerShifts, 65 ≤ (s.first : Int) + s.distance := by decide +kernel
        have above := high shift (List.mem_of_find?_eq_some known)
        exact absurd same.symm (ofNat_ne_of_isSign sign (by omega))

theorem mem_lowerAfter (sign : isSign d) {before : List Char}
    (member : d ∈ lowerAfter before cs) : d ∈ cs := by
  induction cs generalizing before with
  | nil => exact member
  | cons c rest ih =>
      rw [lowerAfter] at member
      obtain here | later := List.mem_append.mp member
      · refine List.mem_cons.mpr (.inl ?_)
        split at here
        · obtain rfl := List.mem_singleton.mp here
          split at sign <;> cases sign
        · exact mem_lowerChar sign here
      · exact List.mem_cons_of_mem _ (ih later)

/-- Signs are not made by turning letters to lower case. -/
theorem mem_lower (sign : isSign d) {s : String} (member : d ∈ (lower s).toList) :
    d ∈ s.toList := by
  rw [lower, String.toList_ofList] at member
  exact mem_lowerAfter sign member

theorem mem_of_mem_pieces {piece : List Char} (member : piece ∈ pieces cs) (inside : d ∈ piece) :
    d ∈ cs := by
  induction cs generalizing piece with
  | nil =>
      obtain rfl := List.mem_singleton.mp member
      exact inside
  | cons c rest ih =>
      rw [pieces] at member
      split at member
      · obtain rfl | member := List.mem_cons.mp member
        · cases inside
        · exact List.mem_cons_of_mem _ (ih member inside)
      · cases shape : pieces rest with
        | nil =>
            rw [shape] at member
            obtain rfl := List.mem_singleton.mp member
            exact List.mem_cons.mpr (.inl (List.mem_singleton.mp inside))
        | cons word others =>
            rw [shape] at member ih
            obtain rfl | member := List.mem_cons.mp member
            · obtain rfl | inside := List.mem_cons.mp inside
              · exact List.mem_cons_self
              · exact List.mem_cons_of_mem _ (ih List.mem_cons_self inside)
            · exact List.mem_cons_of_mem _ (ih (List.mem_cons_of_mem _ member) inside)

end Text

namespace DottedName

open Text (isSign)

theorem mem_intersperse {α : Type} {separator x : α} {l : List α}
    (member : x ∈ l.intersperse separator) : x = separator ∨ x ∈ l := by
  induction l with
  | nil => exact .inr member
  | cons a rest ih =>
      cases rest with
      | nil => exact .inr member
      | cons b rest =>
          rw [List.intersperse_cons_cons] at member
          grind

/-- The signs of a part in its final form are signs of the part as written. -/
theorem mem_normalize {sign : Char} (isSign : isSign sign) {part : List Char} {quoted : Bool}
    (member : sign ∈ (normalize part quoted).toList) : sign ∈ part := by
  cases quoted with
  | true => simpa [normalize] using member
  | false =>
      have inside := Text.mem_lower isSign member
      rw [String.toList_ofList] at inside
      obtain ⟨piece, among, inside⟩ := List.mem_flatten.mp inside
      obtain rfl | word := mem_intersperse among
      · obtain rfl := List.mem_singleton.mp inside
        cases isSign
      · exact Text.mem_of_mem_pieces (List.mem_filter.mp word).1 inside


variable {cs : List Char} {name : String}

theorem mem_close {sign : Char} (isSign : isSign sign) {p : OpenPart}
    (member : sign ∈ p.close.toList) : sign ∈ p.reversed :=
  List.mem_reverse.mp (mem_normalize isSign member)

theorem partsFrom_cons (inside : Bool) (p : OpenPart) (c : Char) (rest : List Char) :
    partsFrom inside p (c :: rest) =
      if c == '"' then partsFrom (!inside) { p with quoted := true } rest
      else if c == '.' && !inside then p.close :: partsFrom inside ⟨[], false⟩ rest
      else partsFrom inside { p with reversed := c :: p.reversed } rest := rfl

/-- Quotes do not stay in a part. -/
theorem quote_notMem_partsFrom {inside : Bool} {p : OpenPart} (unquoted : '"' ∉ p.reversed) :
    ∀ part ∈ partsFrom inside p cs, '"' ∉ part.toList := by
  have closed {p : OpenPart} (unquoted : '"' ∉ p.reversed) : '"' ∉ p.close.toList :=
    fun member => unquoted (mem_close (by decide) member)
  induction cs generalizing inside p with
  | nil => exact List.forall_mem_singleton.mpr (closed unquoted)
  | cons c rest ih =>
      rw [partsFrom_cons]
      split
      · exact ih unquoted
      split
      · exact List.forall_mem_cons.mpr ⟨closed unquoted, ih List.not_mem_nil⟩
      · rename_i other _
        refine ih (List.not_mem_cons_of_ne_of_not_mem ?_ unquoted)
        rintro rfl
        exact other rfl

/-- Dots stay in a part only between quotes. -/
theorem dot_mem_partsFrom {inside : Bool} {p : OpenPart} {part : String}
    (member : part ∈ partsFrom inside p cs) (dotted : '.' ∈ part.toList) :
    '.' ∈ p.reversed ∨ inside ∨ '"' ∈ cs := by
  induction cs generalizing inside p with
  | nil =>
      obtain rfl := List.mem_singleton.mp member
      exact .inl (mem_close (by decide) dotted)
  | cons c rest ih =>
      rw [partsFrom_cons] at member
      split at member
      · rename_i quote
        exact .inr (.inr (List.mem_cons.mpr (.inl (eq_of_beq quote).symm)))
      split at member
      · obtain rfl | member := List.mem_cons.mp member
        · exact .inl (mem_close (by decide) dotted)
        · obtain before | between | later := ih member
          · cases before
          · exact .inr (.inl between)
          · exact .inr (.inr (List.mem_cons_of_mem _ later))
      · rename_i kept
        obtain before | between | later := ih member
        · obtain rfl | before := List.mem_cons.mp before
          · exact .inr (.inl (by simpa using kept))
          · exact .inl before
        · exact .inr (.inl between)
        · exact .inr (.inr (List.mem_cons_of_mem _ later))

theorem partsFrom_plain {p : OpenPart} (undotted : '.' ∉ cs) (unquoted : '"' ∉ cs) :
    partsFrom false p cs = [normalize (p.reversed.reverse ++ cs) p.quoted] := by
  induction cs generalizing p with
  | nil => exact congrArg (fun part => [normalize part p.quoted]) (List.append_nil _).symm
  | cons c rest ih =>
      obtain ⟨noDot, undotted⟩ := List.ne_and_not_mem_of_not_mem_cons undotted
      obtain ⟨noQuote, unquoted⟩ := List.ne_and_not_mem_of_not_mem_cons unquoted
      rw [partsFrom_cons, if_neg (by simpa using Ne.symm noQuote),
        if_neg (by simpa using Ne.symm noDot),
        ih undotted unquoted, List.reverse_cons, List.append_assoc, List.singleton_append]

theorem partsFrom_ne_nil {inside : Bool} {p : OpenPart} : partsFrom inside p cs ≠ [] := by
  induction cs generalizing inside p with
  | nil => exact List.cons_ne_nil _ _
  | cons c rest ih =>
      rw [partsFrom_cons]
      split
      · exact ih
      split
      · exact List.cons_ne_nil _ _
      · exact ih

theorem snd_split_mem_parts : (split cs).2 ∈ parts cs := by
  unfold split
  split
  · rename_i shape
    exact List.mem_reverse.mp (by simp [shape])
  · rename_i shape
    exact List.mem_reverse.mp (by simp [shape])
  · rename_i shape
    exact absurd (List.reverse_eq_nil_iff.mp shape) partsFrom_ne_nil

/-- A text that leaves none of its characters out of its last part has no dots and no quotes: quotes
are always left out, and so are dots unless they stand between quotes. -/
theorem plain_of_kept (kept : ∀ c ∈ cs, c ∈ (split cs).2.toList) : '.' ∉ cs ∧ '"' ∉ cs := by
  have member : (split cs).2 ∈ parts cs := snd_split_mem_parts
  have unquoted : '"' ∉ cs := fun quoted =>
    quote_notMem_partsFrom List.not_mem_nil _ member (kept _ quoted)
  refine ⟨fun dotted => ?_, unquoted⟩
  obtain before | between | quoted := dot_mem_partsFrom member (kept _ dotted)
  · cases before
  · cases between
  · exact unquoted quoted

theorem split_plain (undotted : '.' ∉ cs) (unquoted : '"' ∉ cs) :
    split cs = (none, normalize cs false) := by
  have single : parts cs = [normalize cs false] := partsFrom_plain undotted unquoted
  rw [split, single]
  rfl

theorem schema_of_kept (kept : ∀ c ∈ cs, c ∈ (split cs).2.toList) : (split cs).1 = none := by
  obtain ⟨undotted, unquoted⟩ := plain_of_kept kept
  rw [split_plain undotted unquoted]

/-- Does the text, read as a name, stand for itself? -/
def Whole (name : String) : Prop := split name.toList = (none, name)

instance (name : String) : Decidable (Whole name) :=
  inferInstanceAs (Decidable (split name.toList = (none, name)))

theorem whole_of_snd (same : (split name.toList).2 = name) : Whole name := by
  have kept : ∀ c ∈ name.toList, c ∈ (split name.toList).2.toList := fun c member => by rwa [same]
  exact Prod.ext (schema_of_kept kept) same

/-- The names that stand for themselves have no dots and no quotes, are in lower case, and have
single blanks between their words and no others. -/
theorem whole_iff : Whole name ↔ '.' ∉ name.toList ∧ '"' ∉ name.toList ∧
    Text.lower (String.ofList ([' '].intercalate (Text.words name.toList))) = name := by
  constructor
  · intro whole
    have same : (split name.toList).2 = name := congrArg Prod.snd whole
    have kept : ∀ c ∈ name.toList, c ∈ (split name.toList).2.toList := fun c member => by rwa [same]
    obtain ⟨undotted, unquoted⟩ := plain_of_kept kept
    rw [split_plain undotted unquoted] at same
    exact ⟨undotted, unquoted, same⟩
  · rintro ⟨undotted, unquoted, same⟩
    exact (split_plain undotted unquoted).trans (congrArg (none, ·) same)

example : Whole "order lines" ∧ ¬Whole "Orders" ∧ ¬Whole "a.b" := by decide

end DottedName

/-! ### What references to types keep of the text -/

namespace TypeName

variable {cs : List Char}

theorem splitParams_sublist {depth : Int} {param : List Char} :
    (splitParams depth param cs).1.Sublist cs := by
  induction cs generalizing depth param with
  | nil => exact .slnil
  | cons c rest ih =>
      rw [splitParams_cons]
      split
      · exact ih.cons _
      split
      · exact ih.cons _
      split
      · exact ih.cons _
      · exact ih.cons_cons _

theorem beforeBracket?_sublist {inner : List Char} (found : beforeBracket? cs = some inner) :
    inner.Sublist cs := by
  induction cs with
  | nil => cases found
  | cons c rest ih =>
      rw [beforeBracket?] at found
      split at found
      · cases found
        exact List.sublist_cons_self _ _
      · exact (ih found).cons _

theorem dropSuffixes_sublist : (dropSuffixes cs).2.Sublist cs := by
  fun_induction dropSuffixes cs with
  | case1 rest inner found dims left dropped ih =>
      rw [dropped] at ih
      exact ((ih.trans (List.dropWhile_sublist _)).trans (beforeBracket?_sublist found)).cons _
  | case2 => exact List.Sublist.refl _
  | case3 => exact List.Sublist.refl _

theorem trim_sublist : (Text.trim cs).Sublist cs := by
  have back : (Text.dropBlanks (Text.dropBlanks cs).reverse).Sublist (Text.dropBlanks cs).reverse :=
    List.dropWhile_sublist _
  have front : (Text.dropBlanks cs).Sublist cs := List.dropWhile_sublist _
  have reversed := back.reverse
  rw [List.reverse_reverse] at reversed
  exact reversed.trans front

/-- A reference to a type of which the name is the whole text has no schema in front. -/
theorem schema_of_base {name : String} (base : (ofText name).base = name) :
    (ofText name).schema = none := by
  let body := (splitParams 0 [] (dropSuffixes (Text.trim name.toList).reverse).2.reverse).1
  have within : body.Sublist name.toList := by
    refine splitParams_sublist.trans (List.Sublist.trans ?_ trim_sublist)
    rw [← List.reverse_sublist, List.reverse_reverse]
    exact dropSuffixes_sublist
  have last : (DottedName.split body).2 = name := base
  have kept : ∀ c ∈ body, c ∈ (DottedName.split body).2.toList := by
    rw [last]
    exact fun c member => within.subset member
  exact DottedName.schema_of_kept kept

end TypeName

end SqlEngine
