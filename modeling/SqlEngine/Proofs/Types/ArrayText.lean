import SqlEngine.Catalog.Basic
import SqlEngine.Proofs.Number.Reading
import SqlEngine.Proofs.Types.Representation
import SqlEngine.Value.Literal
import SqlEngine.Value.Text

/-!
Arrays cast to text and back.

The text of an array is an array literal that is read as the array itself, with the texts of its
items in place of the items that are no arrays. An item ends at a comma or at a brace. A text in
which one of them occurs, or anything else that reading looks at, stands in quotes, where only
quotes and backslashes count; so what an item holds never matters to what is around it. The items
are then read as values of the element type. So an array comes back from its text if the values that
it is made of do.
-/

namespace SqlEngine

/-! ### Values as items -/

namespace Value

mutual

/-- What the text of a value is read as inside an array literal. -/
def literal : Value → ArrayItem
  | null => .null
  | array items => .nested (literals items)
  | v => .text (String.ofList v.scalarChars)

def literals : List Value → List ArrayItem
  | [] => []
  | v :: rest => v.literal :: literals rest

end

/-- The text of an array behind its opening brace. -/
def bodyChars : List Value → List Char
  | [] => ['\x7d']
  | item :: rest => item.itemChars ++ restChars rest

theorem itemChars_array (items : List Value) :
    (array items).itemChars = '\x7b' :: bodyChars items := by
  cases items with
  | nil => rfl
  | cons item rest => rw [itemChars, bodyChars, List.cons_append]

/-- A value that is no array stands for itself. -/
theorem item_of_scalar {v : Value} (present : v ≠ .null) (single : ∀ items, v ≠ .array items) :
    v.itemChars = quotedItem v.scalarChars ∧ v.literal = .text (String.ofList v.scalarChars) := by
  cases v with
  | null => exact absurd rfl present
  | array items => exact absurd rfl (single items)
  | _ => exact ⟨rfl, rfl⟩

/-- The text behind an item goes on with a comma, or ends with a brace. -/
theorem restChars_cases (rest : List Value) :
    rest = [] ∧ restChars rest = ['\x7d'] ∨
      rest ≠ [] ∧ restChars rest = ',' :: bodyChars rest := by
  cases rest with
  | nil => exact .inl ⟨rfl, rfl⟩
  | cons item rest =>
      have shape : restChars (item :: rest) = ',' :: bodyChars (item :: rest) := by
        rw [restChars, bodyChars, List.cons_append]
      exact .inr ⟨List.cons_ne_nil _ _, shape⟩

theorem restChars_ends (rest : List Value) : ∃ front, restChars rest = front ++ ['\x7d'] := by
  induction rest with
  | nil => exact ⟨[], rfl⟩
  | cons item rest ih =>
      obtain ⟨front, ends⟩ := ih
      exact ⟨',' :: item.itemChars ++ front, by rw [restChars, ends, List.append_assoc]⟩

theorem bodyChars_ends (items : List Value) : ∃ front, bodyChars items = front ++ ['\x7d'] := by
  cases items with
  | nil => exact ⟨[], rfl⟩
  | cons item rest =>
      obtain ⟨front, ends⟩ := restChars_ends rest
      exact ⟨item.itemChars ++ front, by rw [bodyChars, ends, List.append_assoc]⟩

/-- What reading relies on where a text stands without quotes. -/
structure Bare (cs : List Char) : Prop where
  filled : cs ≠ []
  word : cs.map Numeral.lowerAscii ≠ ['n', 'u', 'l', 'l']
  plain : ∀ c ∈ cs, c ≠ '\x7b' ∧ c ≠ '"'
  through : ∀ c ∈ cs, ArrayItem.isEnd c = false
  dark : ∀ c ∈ cs, Text.isBlank c = false

theorem bare_of_needsQuotes {cs : List Char} (free : needsQuotes cs = false) : Bare cs := by
  simp only [needsQuotes, Bool.or_eq_false_iff, List.any_eq_false, beq_eq_false_iff_ne,
    List.isEmpty_eq_false_iff] at free
  obtain ⟨⟨filled, word⟩, marks⟩ := free
  have clear : ∀ c ∈ cs, (c ≠ '\x7b' ∧ c ≠ '"') ∧ ArrayItem.isEnd c = false ∧
      Text.isBlank c = false := by
    intro c member
    have unmarked := marks c member
    simp only [Bool.or_eq_true, beq_iff_eq, not_or, Bool.not_eq_true] at unmarked
    obtain ⟨⟨⟨⟨⟨opening, closing⟩, comma⟩, quote⟩, -⟩, blank⟩ := unmarked
    exact ⟨⟨opening, quote⟩, by simp [ArrayItem.isEnd, comma, closing], blank⟩
  exact ⟨filled, word, fun c member => (clear c member).1, fun c member => (clear c member).2.1,
    fun c member => (clear c member).2.2⟩

/-- No item begins with a closing brace. -/
theorem itemChars_starts (v : Value) : ∃ c rest, v.itemChars = c :: rest ∧ c ≠ '\x7d' := by
  by_cases absent : v = .null
  · subst absent
    exact ⟨'N', _, rfl, by decide⟩
  · by_cases array : ∃ items, v = .array items
    · obtain ⟨items, rfl⟩ := array
      exact ⟨_, _, itemChars_array items, by decide⟩
    · rw [not_exists] at array
      rw [(item_of_scalar absent array).1, quotedItem]
      cases quotes : needsQuotes v.scalarChars with
      | true => exact ⟨'"', _, rfl, by decide⟩
      | false =>
          have bare := bare_of_needsQuotes quotes
          obtain ⟨c, rest, shape⟩ := List.exists_cons_of_ne_nil bare.filled
          have going := bare.through c (by simp [shape])
          refine ⟨c, rest, by simpa using shape, ?_⟩
          rintro rfl
          cases going

end Value

/-! ### Reading -/

namespace ArrayItem

open Value (quotedItem escapeItem bodyChars restChars literals)

variable {body : List Char → Option (List ArrayItem × List Char)} {cs rest tail : List Char}
  {fuel : Nat}

/-- The next character ends an item. -/
def Closed (tail : List Char) : Prop := ∃ c rest, tail = c :: rest ∧ isEnd c

theorem closed_restChars (rest : List Value) (tail : List Char) :
    Closed (restChars rest ++ tail) := by
  obtain ⟨-, shape⟩ | ⟨-, shape⟩ := Value.restChars_cases rest
  · exact ⟨'\x7d', tail, by rw [shape]; rfl, by decide⟩
  · exact ⟨',', bodyChars rest ++ tail, by rw [shape]; rfl, by decide⟩

theorem quoted?_escapes (cs : List Char) :
    quoted? (cs.flatMap escapeItem ++ '"' :: rest) = some (cs, rest) := by
  induction cs with
  | nil => rfl
  | cons c cs ih =>
      by_cases special : c = '\\' ∨ c = '"'
      · have escaped : escapeItem c = ['\\', c] := by simp [escapeItem, special]
        rw [List.flatMap_cons, escaped]
        simp [quoted?, ih]
      · have bare : escapeItem c = [c] := by simp [escapeItem, special]
        rw [not_or] at special
        rw [List.flatMap_cons, bare, List.singleton_append, List.cons_append, quoted?, ih]
        · rfl
        · exact special.2
        · exact fun _ _ same => absurd same special.1
        · exact fun same => absurd same special.1

theorem item?_bare (starts : ∃ c rest, cs = c :: rest ∧ c ≠ '\x7b' ∧ c ≠ '"')
    (dark : ∀ c ∈ cs, Text.isBlank c = false) (through : ∀ c ∈ cs, isEnd c = false)
    (closed : Closed tail) : item? body (cs ++ tail) = some (ofBare cs, tail) := by
  obtain ⟨c, rest, rfl, noBrace, noQuote⟩ := starts
  obtain ⟨d, behind, rfl, ends⟩ := closed
  have kept : Text.dropBlanks (c :: rest ++ d :: behind) = c :: rest ++ d :: behind :=
    Text.dropBlanks_cons (dark c List.mem_cons_self)
  have goesOn : ∀ d ∈ c :: rest, (!isEnd d) = true := fun d member => by simp [through d member]
  have taken : (c :: rest ++ d :: behind).takeWhile (!isEnd ·) = c :: rest := by
    rw [List.takeWhile_append_of_pos goesOn, List.takeWhile_cons_of_neg (by simp [ends]),
      List.append_nil]
  have left : (c :: rest ++ d :: behind).dropWhile (!isEnd ·) = d :: behind := by
    rw [List.dropWhile_append_of_pos goesOn, List.dropWhile_cons_of_neg (by simp [ends])]
  unfold item?
  rw [kept]
  split
  · rename_i same
    cases same
  · rename_i same
    cases same
    exact absurd rfl noBrace
  · rename_i same
    cases same
    exact absurd rfl noQuote
  · rw [taken, left]

theorem item?_null (closed : Closed tail) :
    item? body (Value.null.itemChars ++ tail) = some (.null, tail) := by
  have letters : ∀ c ∈ ['N', 'U', 'L', 'L'], Text.isBlank c = false ∧ isEnd c = false := by
    simp only [List.forall_mem_cons, List.not_mem_nil, false_implies, implies_true]
    decide
  have starts : ∃ c rest, Value.null.itemChars = c :: rest ∧ c ≠ '\x7b' ∧ c ≠ '"' :=
    ⟨'N', ['U', 'L', 'L'], rfl, by decide, by decide⟩
  exact item?_bare starts (fun c member => (letters c member).1)
    (fun c member => (letters c member).2) closed

/-- A text is read back from how it is written as an item. -/
theorem item?_quotedItem (cs : List Char) (closed : Closed tail) :
    item? body (quotedItem cs ++ tail) = some (.text (String.ofList cs), tail) := by
  unfold quotedItem
  split
  · have whole : '"' :: cs.flatMap escapeItem ++ ['"'] ++ tail =
        '"' :: (cs.flatMap escapeItem ++ '"' :: tail) := by simp
    rw [whole, item?, Text.dropBlanks_cons (by decide)]
    simp only [quoted?_escapes, Option.map_some]
  · rename_i free
    have bare := Value.bare_of_needsQuotes (by simpa using free)
    obtain ⟨c, rest, shape⟩ := List.exists_cons_of_ne_nil bare.filled
    have read : ofBare cs = .text (String.ofList cs) := by
      unfold ofBare
      dsimp only
      rw [Text.trim_of_dark bare.dark, if_neg (by simpa using bare.word)]
    have starts := bare.plain c (by simp [shape])
    rw [item?_bare ⟨c, rest, shape, starts⟩ bare.dark bare.through closed, read]

theorem item?_scalar {v : Value} (present : v ≠ .null) (single : ∀ items, v ≠ .array items)
    (closed : Closed tail) : item? body (v.itemChars ++ tail) = some (v.literal, tail) := by
  obtain ⟨written, read⟩ := Value.item_of_scalar present single
  rw [written, read]
  exact item?_quotedItem v.scalarChars closed

theorem body?_of_items? {items : List Value}
    (read : items ≠ [] → items? fuel (bodyChars items ++ tail) = some (literals items, tail)) :
    body? (fuel + 1) (bodyChars items ++ tail) = some (literals items, tail) := by
  cases items with
  | nil => rfl
  | cons v rest =>
      obtain ⟨c, more, shape, going⟩ := Value.itemChars_starts v
      rw [← read (List.cons_ne_nil v rest), body?]
      intro behind same
      rw [bodyChars, shape] at same
      cases same
      exact going rfl

mutual

/-- What is behind the text of a value does not matter for how it is read. Fuel of twice the length
is enough: a level takes two of it, and has a character at least. -/
theorem item?_literal {fuel : Nat} {tail : List Char} (v : Value) (closed : Closed tail)
    (enough : 2 * v.itemChars.length ≤ fuel) :
    item? (body? fuel) (v.itemChars ++ tail) = some (v.literal, tail) := by
  cases v with
  | null => exact item?_null closed
  | array items =>
      rw [Value.itemChars_array, List.length_cons] at enough
      obtain ⟨fuel, rfl⟩ : ∃ f, fuel = f + 1 := ⟨fuel - 1, by omega⟩
      have inner : body? (fuel + 1) (bodyChars items ++ tail) = some (literals items, tail) :=
        body?_of_items? fun filled => items?_literals items filled (by omega)
      rw [Value.itemChars_array, List.cons_append, item?, Text.dropBlanks_cons (by decide)]
      simp only [inner, Option.map_some]
      rfl
  | _ => exact item?_scalar (by simp) (by simp) closed

theorem items?_literals {fuel : Nat} {tail : List Char} (items : List Value) (filled : items ≠ [])
    (enough : 2 * (bodyChars items).length ≤ fuel + 1) :
    items? fuel (bodyChars items ++ tail) = some (literals items, tail) := by
  cases items with
  | nil => exact absurd rfl filled
  | cons v rest =>
      have behind := closed_restChars rest tail
      rw [bodyChars, List.length_append] at enough
      obtain ⟨last, shape⟩ | ⟨more, shape⟩ := Value.restChars_cases rest
      · rw [shape, List.length_singleton] at enough
        obtain ⟨fuel, rfl⟩ : ∃ f, fuel = f + 1 := ⟨fuel - 1, by omega⟩
        rw [bodyChars, List.append_assoc, items?, item?_literal v behind (by omega), shape, last]
        rfl
      · rw [shape, List.length_cons] at enough
        obtain ⟨fuel, rfl⟩ : ∃ f, fuel = f + 1 := ⟨fuel - 1, by omega⟩
        have later : items? fuel (bodyChars rest ++ tail) = some (literals rest, tail) :=
          items?_literals rest more (by omega)
        rw [bodyChars, List.append_assoc, items?, item?_literal v behind (by omega), shape]
        simp only [Option.bind_eq_bind, Option.bind_some, List.cons_append,
          Text.dropBlanks_cons (c := ',') (by decide), later, Option.map_some]
        rfl

end

/-- The text of an array is read as the array. -/
theorem ofText?_render (items : List Value) :
    ofText? (Value.array items).render = some (literals items) := by
  obtain ⟨front, ends⟩ := Value.bodyChars_ends items
  have closes : '\x7b' :: bodyChars items = ('\x7b' :: front) ++ ['\x7d'] := by
    rw [ends, List.cons_append]
  have trimmed : Text.trim ('\x7b' :: bodyChars items) = '\x7b' :: bodyChars items :=
    Text.trim_eq_self rfl closes (by decide) (by decide)
  have read : body? (2 * (bodyChars items).length + 2) (bodyChars items ++ []) =
      some (literals items, []) :=
    body?_of_items? fun filled => items?_literals items filled (by omega)
  rw [List.append_nil] at read
  rw [ofText?, Value.render, String.toList_ofList, Value.chars, Value.itemChars_array, trimmed]
  simp only [read]

end ArrayItem

/-! ### Items as values -/

namespace Literal

theorem bool?_text (b : Bool) : bool? (String.ofList (Value.bool b).scalarChars) = some b := by
  cases b <;> decide

theorem byte?_hexByte (b : UInt8) :
    byte? (Nat.digitChar (b.toNat / 16)) (Nat.digitChar (b.toNat % 16)) = some b := by
  have size := b.toNat_lt
  have noPlus : ∀ n < 16, (Nat.digitChar n == '+') = false := by decide
  have high := Numeral.hexDigit?_digitChar (b.toNat / 16) (by omega)
  have low := Numeral.hexDigit?_digitChar (b.toNat % 16) (by omega)
  have sum : UInt8.ofNat (16 * (b.toNat / 16) + b.toNat % 16) = b := by
    rw [Nat.div_add_mod, UInt8.ofNat_toNat]
  rw [byte?, noPlus _ (by omega), high, low]
  exact congrArg some sum

theorem bytePairs?_hexBytes (bytes : List UInt8) :
    bytePairs? (bytes.flatMap hexByte) = some bytes := by
  induction bytes with
  | nil => rfl
  | cons b bytes ih =>
      rw [List.flatMap_cons, hexByte, List.cons_append, List.singleton_append, bytePairs?,
        byte?_hexByte, ih]
      rfl

theorem bytea?_text (bytes : List UInt8) :
    bytea? (String.ofList (Value.bytea bytes).scalarChars) = some bytes := by
  simp only [bytea?, Value.scalarChars, String.toList_ofList, bytePairs?_hexBytes]

end Literal

namespace SqlType

/-- The types whose values are read back from their text. -/
def keepsText : SqlType → Bool
  | text _ | citext | integer | bool | bytea | enum _ => true
  | _ => false

theorem includes_of_scalar {type : SqlType} {v : Value} (present : v ≠ .null)
    (single : ∀ items, v ≠ .array items) : type.includes v = type.includesScalar v := by
  rw [includes]
  · exact present
  · exact fun _ items _ same => single items same

end SqlType

namespace Conversion

variable {registry : Registry} {type leaf : SqlType} {c : Conversion} {v : Value}

/-- Values of the type, NULL apart, come back from their text. -/
def ReadsBack (registry : Registry) (type : SqlType) : Prop :=
  ∀ v, type.includesScalar v → readScalar registry type (String.ofList v.scalarChars) = .ok v

theorem readScalar_of_plan (noItems : type.element? = none)
    (planned : plan? (.text none) type true = some c) (s : String) :
    readScalar registry type s = applyToText registry c s := by
  unfold readScalar
  split
  · cases noItems
  · rw [planned]
    rfl

theorem readsBack_text (limit : Option Nat) : ReadsBack registry (.text limit) := by
  intro v included
  cases v with
  | text s =>
      cases limit with
      | none =>
          rw [readScalar_of_plan rfl (c := retag) (by rfl)]
          simp [applyToText, Value.scalarChars]
      | some limit =>
          have short : ¬limit < s.toList.length := by simpa [SqlType.includesScalar] using included
          have planned : plan? (.text none) (.text (some limit)) true = some (boundText limit) := by
            simp [plan?, implicit?, planBound, SqlType.isNull]
          rw [readScalar_of_plan rfl planned, applyToText, Value.scalarChars, String.ofList_toList,
            if_neg short]
  | _ => cases included

theorem readsBack_citext : ReadsBack registry .citext := by
  intro v included
  cases v with
  | text s =>
      rw [readScalar_of_plan rfl (c := retag) (by rfl)]
      simp [applyToText, Value.scalarChars]
  | _ => cases included

theorem readsBack_integer : ReadsBack registry .integer := by
  intro v included
  cases v with
  | int i =>
      rw [readScalar_of_plan rfl (c := textToInt) (by rfl), applyToText, Value.scalarChars,
        String.ofList_toList, Numeral.trimmed_toString, Numeral.int64?_toString included]
      rfl
  | _ => cases included

theorem readsBack_bool : ReadsBack registry .bool := by
  intro v included
  cases v with
  | bool b =>
      rw [readScalar_of_plan rfl (c := textToBool) (by rfl), applyToText, Literal.bool?_text]
      rfl
  | _ => cases included

theorem readsBack_bytea : ReadsBack registry .bytea := by
  intro v included
  cases v with
  | bytea bytes =>
      rw [readScalar_of_plan rfl (c := textToBytea) (by rfl), applyToText, Literal.bytea?_text]
      rfl
  | _ => cases included

theorem readsBack_enum (declared : EnumDef) : ReadsBack registry (.enum declared) := by
  intro v included
  cases v with
  | text s =>
      have planned : plan? (.text none) (.enum declared) true = some (textToEnum declared) := by
        simp [plan?, implicit?, explicit?, fromText?, SqlType.isNull]
      have listed : (declared.position? s).isSome := included
      rw [readScalar_of_plan rfl planned, applyToText, Value.scalarChars, String.ofList_toList,
        if_pos listed]
  | _ => cases included

theorem readsBack_of_keepsText (kept : leaf.keepsText) : ReadsBack registry leaf := by
  cases leaf with
  | text limit => exact readsBack_text limit
  | citext => exact readsBack_citext
  | integer => exact readsBack_integer
  | bool => exact readsBack_bool
  | bytea => exact readsBack_bytea
  | enum declared => exact readsBack_enum declared
  | _ => cases kept

theorem readItem_nested (noItems : leaf.element? = none) (items : List ArrayItem) :
    readItem registry (.nested items) leaf = (readItems registry items leaf).map .array := by
  rw [readItem]
  rintro element rfl
  cases noItems

theorem readItem_scalar (reads : ReadsBack registry leaf) (present : v ≠ .null)
    (single : ∀ items, v ≠ .array items) (member : leaf.includes v ∨ leaf.array.includes v) :
    readItem registry v.literal leaf = .ok v := by
  have included : leaf.includesScalar v := by
    simp only [SqlType.includes_of_scalar present single] at member
    refine member.resolve_right fun impossible => ?_
    cases v <;> cases impossible
  rw [(Value.item_of_scalar present single).2, readItem, reads v included]

mutual

/-- Items come back from their texts if they are values of the element type, or arrays of such. -/
theorem readItem_literal (reads : ReadsBack registry leaf) (noItems : leaf.element? = none)
    (v : Value) (member : leaf.includes v ∨ leaf.array.includes v) :
    readItem registry v.literal leaf = .ok v := by
  cases v with
  | null => rw [Value.literal, readItem]
  | array items =>
      rw [SqlType.not_includes_array noItems, or_iff_right Bool.false_ne_true] at member
      have inner := readItems_literals reads noItems items (SqlType.includes_array_iff.mp member)
      rw [Value.literal, readItem_nested noItems, inner]
      rfl
  | _ => exact readItem_scalar reads (by simp) (by simp) member

theorem readItems_literals (reads : ReadsBack registry leaf) (noItems : leaf.element? = none)
    (items : List Value) (members : ∀ v ∈ items, leaf.includes v ∨ leaf.array.includes v) :
    readItems registry (Value.literals items) leaf = .ok items := by
  cases items with
  | nil => rw [Value.literals, readItems]
  | cons v rest =>
      obtain ⟨first, others⟩ := List.forall_mem_cons.mp members
      have head := readItem_literal reads noItems v first
      have tail := readItems_literals reads noItems rest others
      rw [Value.literals, readItems, head, tail]
      rfl

end

theorem textToArray_render (reads : ReadsBack registry leaf) (noItems : leaf.element? = none)
    {items : List Value} (members : leaf.array.includes (.array items)) :
    (textToArray leaf).apply registry (.text (Value.array items).render) = .ok (.array items) := by
  have found := readItems_literals reads noItems items (SqlType.includes_array_iff.mp members)
  have present : (Value.text (Value.array items).render).isNull = false := rfl
  rw [apply, strict, present]
  simp only [ArrayItem.ofText?_render, orFail, bind, Except.bind, found]
  rfl

/-- An array cast to text and back is the array it was. -/
theorem array_text_roundTrip (registry : Registry) (kept : leaf.keepsText)
    (member : leaf.array.includes v) :
    ∃ write read written,
      plan? leaf.array (.text none) true = some write ∧ write.apply registry v = .ok written ∧
      (SqlType.text none).includes written ∧
      plan? (.text none) leaf.array true = some read ∧ read.apply registry written = .ok v := by
  have written : plan? leaf.array (.text none) true = some toText := by
    simp [plan?, implicit?, explicit?, SqlType.isNull]
  have readable : ((implicit? (.text none) leaf).isSome || (fromText? leaf).isSome) = true := by
    cases leaf <;> first | rfl | cases kept
  have read : plan? (.text none) leaf.array true = some (textToArray leaf) := by
    simp [plan?, implicit?, explicit?, fromText?, readable, SqlType.isNull]
  have noItems : leaf.element? = none := by
    cases leaf <;> first | rfl | cases kept
  obtain rfl | ⟨items, rfl⟩ := SqlType.includes_array_cases member
  · exact ⟨_, _, .null, written, rfl, rfl, read, by rw [apply]; rfl⟩
  · exact ⟨_, _, .text (Value.array items).render, written, rfl, rfl, read,
      textToArray_render (readsBack_of_keepsText kept) noItems member⟩

/-- Texts that need quotes for one reason each, beside NULL, at different depths. -/
def exampleItems : List Value :=
  [.text "", .text "null", .null, .array [.text "\\x, \"\x7by\x7d\"", .array [], .text "plain"],
    .text "\u00a0"]

theorem exampleItems_come_back :
    ∃ write read written,
      plan? (.array (.text (some 12))) (.text none) true = some write ∧
      write.apply (Catalog.create {}).registry (.array exampleItems) = .ok written ∧
      (SqlType.text none).includes written ∧
      plan? (.text none) (.array (.text (some 12))) true = some read ∧
      read.apply (Catalog.create {}).registry written = .ok (.array exampleItems) :=
  array_text_roundTrip (Catalog.create {}).registry (by decide) (by decide)

end Conversion

end SqlEngine
