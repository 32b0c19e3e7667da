import SqlEngine.Proofs.Types.Conversions
import SqlEngine.Proofs.Types.Representation

/-!
Planned conversions are safe.

A conversion that is planned from one type to another turns values of the first into values of the
second, or fails in a way that can be expected: the text cannot be read, the value has no
counterpart, or the catalog does not know the name. It never meets a value that it is not made for.
-/

namespace SqlEngine

/-- The errors that lookups of a registry end in. -/
def Registry.Raises (registry : Registry) (e : SqlError) : Prop :=
  (∃ name, registry.typeByName name = .error e) ∨ ∃ name, registry.relationByName name = .error e

/-- The numbers that a registry gives have 32 bits. -/
structure Registry.Numbered (registry : Registry) : Prop where
  types : ∀ name type number, registry.typeByName name = .ok type →
    registry.typeOid? type = some number → number < Nat.pow 2 32
  relations : ∀ id number name,
    registry.relationById? id = some (number, name) → number < Nat.pow 2 32
  names : ∀ text number name,
    registry.relationByName text = .ok (number, name) → number < Nat.pow 2 32

/-- The result is such a value, or an error of a conversion or of a lookup. -/
structure Registry.Yields {α : Type} (registry : Registry) (p : α → Prop)
    (x : Except SqlError α) : Prop where
  given : ∀ a, x = .ok a → p a
  fault : ∀ e, x = .error e → e.kind = .query ∨ e.kind = .cast ∨ registry.Raises e

namespace Registry

variable {registry : Registry} {α β : Type} {p : α → Prop} {q : β → Prop}

theorem Yields.ok {a : α} (held : p a) : registry.Yields p (.ok a) :=
  ⟨fun _ same => Except.ok.inj same ▸ held, nofun⟩

theorem Yields.error {e : SqlError} (expected : e.kind = .query ∨ e.kind = .cast ∨ registry.Raises e) :
    registry.Yields p (.error e) :=
  ⟨nofun, fun _ same => Except.error.inj same ▸ expected⟩

theorem Yields.query (cause : QueryError) : registry.Yields p (.error (.query cause)) :=
  Yields.error (.inl rfl)

theorem Yields.cast (source target : TypeKind) (context : Option String) :
    registry.Yields p (.error (.cast source target context)) :=
  Yields.error (.inr (.inl rfl))

theorem Yields.mono {x : Except SqlError α} (yields : registry.Yields p x) {weaker : α → Prop}
    (implies : ∀ a, p a → weaker a) : registry.Yields weaker x :=
  ⟨fun a same => implies a (yields.given a same), yields.fault⟩

theorem Yields.bind {x : Except SqlError α} {f : α → Except SqlError β}
    (first : registry.Yields p x) (next : ∀ a, p a → registry.Yields q (f a)) :
    registry.Yields q (x >>= f) := by
  cases x with
  | ok a => exact next a (first.given a rfl)
  | error e => exact Yields.error (first.fault e rfl)

theorem Yields.map {x : Except SqlError α} {f : α → β} (first : registry.Yields p x)
    (implies : ∀ a, p a → q (f a)) : registry.Yields q (x.map f) := by
  cases x with
  | ok a => exact Yields.ok (implies a (first.given a rfl))
  | error e => exact Yields.error (first.fault e rfl)

theorem Yields.orFail {a? : Option α} {e : SqlError} (expected : e.kind = .query ∨ e.kind = .cast)
    (found : ∀ a, a? = some a → p a) : registry.Yields p (Conversion.orFail e a?) := by
  cases a? with
  | some a => exact Yields.ok (found a rfl)
  | none => exact Yields.error (expected.elim .inl (.inr ∘ .inl))

theorem Yields.mapM {f : α → Except SqlError β} :
    ∀ {items : List α}, (∀ a ∈ items, registry.Yields q (f a)) →
      registry.Yields (fun images => ∀ b ∈ images, q b) (items.mapM f) := by
  intro items
  induction items with
  | nil => exact fun _ => Yields.ok (List.forall_mem_nil _)
  | cons a rest ih =>
      intro each
      obtain ⟨first, others⟩ := List.forall_mem_cons.mp each
      rw [List.mapM_cons]
      refine first.bind fun b image => (ih others).bind fun images all => ?_
      exact Yields.ok (List.forall_mem_cons.mpr ⟨image, all⟩)

theorem yields_typeByName (registry : Registry) (name : String) :
    registry.Yields (registry.typeByName name = .ok ·) (registry.typeByName name) :=
  ⟨fun _ found => found, fun _ raised => .inr (.inr (.inl ⟨name, raised⟩))⟩

theorem Numbered.yields_relationByName (numbered : registry.Numbered) (name : String) :
    registry.Yields (fun relation => relation.1 < Nat.pow 2 32) (registry.relationByName name) :=
  ⟨fun relation found => numbered.names name relation.1 relation.2 found,
    fun _ raised => .inr (.inr (.inr ⟨name, raised⟩))⟩

end Registry

open Registry (Yields)

/-! ### Numbers -/

theorem Numeral.int64?_fits {s : String} {i : Int} (read : Numeral.int64? s = some i) :
    Numeral.fitsInt64 i := by
  obtain ⟨_, _, inside⟩ := Option.bind_eq_some_iff.mp read
  unfold Numeral.inRange at inside
  split at inside
  · rename_i bounds
    exact Option.some.inj inside ▸ bounds
  · cases inside

theorem Numeral.nat32?_lt {s : String} {n : Nat} (read : Numeral.nat32? s = some n) :
    n < Nat.pow 2 32 := by
  obtain ⟨m, _, inside⟩ := Option.bind_eq_some_iff.mp read
  split at inside
  · rename_i bound
    exact Option.some.inj inside ▸ bound
  · cases inside

theorem Numeral.fitsInt64_of_lt {n : Nat} (bound : n < Nat.pow 2 32) :
    Numeral.fitsInt64 (n : Int) := by
  have low : minInt64 ≤ 0 := by decide
  have high : ((Nat.pow 2 32 : Nat) : Int) ≤ maxInt64 := by decide
  have : (n : Int) < (Nat.pow 2 32 : Nat) := Int.ofNat_lt.mpr bound
  unfold fitsInt64
  simp only [Bool.and_eq_true, decide_eq_true_eq]
  omega

/-! ### Shapes -/

namespace Shape

def type : Shape → SqlType
  | point => .point
  | lseg => .lseg
  | box => .box
  | circle => .circle

theorem read?_included {shape : Shape} {s : String} {v : Value} (read : shape.read? s = some v) :
    shape.type.includes v := by
  cases shape <;> obtain ⟨_, _, rfl⟩ := Option.map_eq_some_iff.mp read <;> rfl

end Shape

namespace Conversion

theorem roundToInt_fits (x : Double) : Numeral.fitsInt64 (roundToInt x) := by
  have bounds : Numeral.minInt64 ≤ 0 ∧ (0 : Int) ≤ Numeral.maxInt64 := by decide
  unfold roundToInt Numeral.fitsInt64
  simp only [Bool.and_eq_true, decide_eq_true_eq]
  split
  · exact bounds
  · split
    · omega
    · split <;> omega

theorem oid?_lt {i : Int} {n : Nat} (given : oid? i = some n) : n < Nat.pow 2 32 := by
  unfold oid? at given
  split at given
  · rename_i bounds
    simp only [Bool.and_eq_true, decide_eq_true_eq] at bounds
    cases given
    omega
  · cases given

/-! ### Values without items -/

variable {registry : Registry} {c item : Conversion} {source target wider narrower : SqlType}
  {element : SqlType} {v : Value}

/-- Applied to values of the one type, the conversion gives values of the other or fails in an
expected way. -/
def Converts (registry : Registry) (c : Conversion) (source target : SqlType) : Prop :=
  ∀ v, source.includes v → registry.Yields (target.includes ·) (c.apply registry v)

theorem Converts.mono (converts : c.Converts registry source target)
    (fewer : ∀ v, narrower.includes v → source.includes v)
    (more : ∀ v, target.includes v → wider.includes v) : c.Converts registry narrower wider :=
  fun v given => (converts v (fewer v given)).mono more

/-- The types between which a conversion without items leads, if they are always the same. Texts
of all types are counted as texts without regard to case, which have no limit. -/
def ends? : Conversion → Option (SqlType × SqlType)
  | retag | toText | elements _ | andThen _ _ | textToArray _ => none
  | intToFloat => some (.integer, .float)
  | floatToInt => some (.float, .integer)
  | boolToInt => some (.bool, .integer)
  | intToBool => some (.integer, .bool)
  | boundText limit => some (.citext, .text (some limit))
  | textToBool => some (.citext, .bool)
  | textToInt => some (.citext, .integer)
  | textToFloat => some (.citext, .float)
  | textToUuid => some (.citext, .uuid)
  | textToBytea => some (.citext, .bytea)
  | textToTimestamp => some (.citext, .timestamp)
  | textToDate => some (.citext, .date)
  | textToTime => some (.citext, .time)
  | textToJson => some (.citext, .json)
  | textToRegType => some (.citext, .regtype)
  | textToRegClass => some (.citext, .regclass)
  | textToEnum declared => some (.citext, .enum declared)
  | textToShape shape => some (.citext, shape.type)
  | timestampToDate => some (.timestamp, .date)
  | timestampToTime => some (.timestamp, .time)
  | dateToTimestamp => some (.date, .timestamp)
  | intToRegType => some (.integer, .regtype)
  | intToRegClass => some (.integer, .regclass)
  | regTypeToInt => some (.regtype, .integer)
  | regClassToInt => some (.regclass, .integer)

theorem yields_readRegType (registry : Registry) (s : String) :
    registry.Yields (SqlType.regtype.includes ·) (readRegType registry s) :=
  (registry.yields_typeByName _).bind fun _ _ => Yields.ok rfl

theorem yields_readRegClass (numbered : registry.Numbered) (s : String) :
    registry.Yields (SqlType.regclass.includes ·) (readRegClass registry s) := by
  unfold readRegClass
  split
  · rename_i number read
    split
    · exact Yields.ok rfl
    · exact Yields.ok (decide_eq_true (Numeral.nat32?_lt read))
  · exact (numbered.yields_relationByName s).bind fun _ _ => Yields.ok rfl

theorem yields_read {α : Type} {e : SqlError} {a? : Option α} {make : α → Value}
    (expected : e.kind = .query ∨ e.kind = .cast) (made : ∀ a, target.includes (make a)) :
    registry.Yields (target.includes ·) ((orFail e a?).map make) :=
  (Yields.orFail expected fun a _ => made a).map fun _ included => included

/-- Texts are read as values of the type that the conversion leads to. -/
theorem yields_applyToText (numbered : registry.Numbered)
    (leads : c.ends? = some (.citext, target)) (s : String) :
    registry.Yields (target.includes ·) (applyToText registry c s) := by
  cases c <;> cases leads <;> simp only [applyToText]
  case boundText limit =>
    split
    · exact Yields.query _
    · rename_i short
      exact Yields.ok (by simpa using Nat.le_of_not_lt short)
  case textToInt =>
    have read : registry.Yields (fun i => Numeral.fitsInt64 i)
        (orFail (.query (.invalidInteger s)) (Numeral.int64? (Text.trimmed s))) :=
      Yields.orFail (.inl rfl) fun i read => Numeral.int64?_fits read
    exact read.map fun i fits => (SqlType.includes_int i).trans fits
  case textToJson =>
    cases Json.ofText s with
    | ok j => exact Yields.ok rfl
    | error fault => exact Yields.query _
  case textToEnum declared =>
    split
    · rename_i known
      exact Yields.ok ((SqlType.includes_enum declared s).trans known)
    · exact Yields.query _
  case textToShape shape => exact Yields.orFail (.inr rfl) fun _ read => Shape.read?_included read
  case textToRegType => exact yields_readRegType registry _
  case textToRegClass => exact yields_readRegClass numbered _
  case textToBool | textToUuid | textToBytea => exact yields_read (.inr rfl) fun _ => rfl
  all_goals exact yields_read (.inl rfl) fun _ => rfl

theorem yields_regTypeNumber (numbered : registry.Numbered) {h : Handle} (fits : h.fits) :
    registry.Yields (SqlType.integer.includes ·) (regTypeNumber registry h) := by
  cases h with
  | id number => exact Yields.ok (Numeral.fitsInt64_of_lt (of_decide_eq_true fits))
  | name name =>
      refine (registry.yields_typeByName name).bind fun type found => ?_
      have known : registry.Yields (· < Nat.pow 2 32)
          (orFail (.cast .regtype .integer none) (registry.typeOid? type)) :=
        Yields.orFail (.inr rfl) fun number given => numbered.types name type number found given
      exact known.bind fun number bound => Yields.ok (Numeral.fitsInt64_of_lt bound)

theorem yields_regClassNumber (numbered : registry.Numbered) {h : Handle} (fits : h.fits) :
    registry.Yields (SqlType.integer.includes ·) (regClassNumber registry h) := by
  cases h with
  | id number =>
      refine Yields.ok (Numeral.fitsInt64_of_lt ?_)
      cases found : registry.relationById? number with
      | none => exact of_decide_eq_true fits
      | some relation => exact numbered.relations number relation.1 relation.2 found
  | name name =>
      refine (numbered.yields_relationByName name).bind fun relation bound => ?_
      exact Yields.ok (Numeral.fitsInt64_of_lt bound)

theorem yields_applyScalar (numbered : registry.Numbered) (leads : c.ends? = some (source, target))
    (known : v.isNull = false) (held : source.includes v) :
    registry.Yields (target.includes ·) (applyScalar registry c v) := by
  cases v with
  | null => cases known
  | text s =>
      have text : source = .citext := by cases c <;> cases leads <;> first | rfl | cases held
      subst text
      exact yields_applyToText numbered leads s
  | int i =>
      cases c <;> cases leads <;> try cases held
      case int.intToRegType =>
        simp only [applyScalar]
        split
        · exact Yields.ok rfl
        · exact Yields.cast _ _ _
      case int.intToRegClass =>
        simp only [applyScalar]
        split
        · rename_i found
          exact Yields.ok (decide_eq_true (oid?_lt found))
        · exact Yields.cast _ _ _
      all_goals exact Yields.ok rfl
  | float x =>
      cases c <;> cases leads <;> cases held
      exact Yields.ok (roundToInt_fits x)
  | bool b =>
      cases c <;> cases leads <;> cases held
      exact Yields.ok (by cases b <;> decide)
  | handle h =>
      cases c <;> cases leads <;> try cases held
      · exact yields_regTypeNumber numbered held
      · exact yields_regClassNumber numbered held
  | _ => cases c <;> cases leads <;> cases held <;> exact Yields.ok rfl

theorem apply_eq_strict_of_ends (known : c.ends? = some (source, target)) :
    c.apply registry = strict (applyScalar registry c) := by
  refine apply_eq_strict ?_
  cases c <;> cases known <;> exact Option.some_ne_none _

theorem yields_strict {f : Value → Except SqlError Value}
    (yields : v.isNull = false → registry.Yields (target.includes ·) (f v)) :
    registry.Yields (target.includes ·) (strict f v) := by
  unfold strict
  split
  · exact Yields.ok (SqlType.includes_null target)
  · rename_i known
    exact yields (Bool.eq_false_iff.mpr known)

theorem Converts.of_ends (numbered : registry.Numbered) (leads : c.ends? = some (source, target)) :
    c.Converts registry source target := by
  intro v held
  rw [apply_eq_strict_of_ends leads]
  exact yields_strict fun known => yields_applyScalar numbered leads known held

theorem Converts.retag (wider : ∀ v, source.includes v → target.includes v) :
    retag.Converts registry source target := by
  intro v held
  refine yields_strict fun _ => ?_
  have same : applyScalar registry .retag v = .ok v := by cases v <;> rfl
  exact same ▸ Yields.ok (wider v held)

theorem yields_toText (texts : ∀ s, target.includes (.text s)) (v : Value) :
    registry.Yields (target.includes ·) (toText.apply registry v) := by
  refine yields_strict fun _ => ?_
  have written : ∃ s, applyScalar registry .toText v = .ok (.text s) := by
    cases v <;> exact ⟨_, rfl⟩
  obtain ⟨s, written⟩ := written
  exact written ▸ Yields.ok (texts s)

/-! ### Arrays -/

/-- Whatever is an item of an array over the element type. -/
def IsItem (element : SqlType) (v : Value) : Prop := element.includes v ∨ element.array.includes v

mutual

/-- Converting the leaves of a value gives an item of an array over the target type. The leaves
satisfy a condition that arrays hand down to their items. -/
theorem yields_mapLeaves {f : Value → Except SqlError Value} {p : Value → Prop}
    (down : ∀ items, p (.array items) → ∀ v ∈ items, p v)
    (each : ∀ v, (∀ items, v ≠ .array items) → p v → registry.Yields (target.includes ·) (f v))
    (v : Value) (held : p v) : registry.Yields (IsItem target) (mapLeaves f v) := by
  cases v with
  | array items =>
      rw [mapLeaves]
      exact (yields_mapLeafItems down each items (down items held)).map fun images included =>
        .inr (SqlType.includes_array_iff.mpr included)
  | _ => exact (each _ (fun _ same => by cases same) held).mono fun _ => .inl

theorem yields_mapLeafItems {f : Value → Except SqlError Value} {p : Value → Prop}
    (down : ∀ items, p (.array items) → ∀ v ∈ items, p v)
    (each : ∀ v, (∀ items, v ≠ .array items) → p v → registry.Yields (target.includes ·) (f v))
    (items : List Value) (held : ∀ v ∈ items, p v) :
    registry.Yields (fun images => ∀ w ∈ images, IsItem target w) (mapLeafItems f items) := by
  cases items with
  | nil => exact Yields.ok (List.forall_mem_nil _)
  | cons v rest =>
      obtain ⟨first, others⟩ := List.forall_mem_cons.mp held
      rw [mapLeafItems]
      refine (yields_mapLeaves down each v first).bind fun w image => ?_
      refine (yields_mapLeafItems down each rest others).bind fun images all => ?_
      exact Yields.ok (List.forall_mem_cons.mpr ⟨image, all⟩)

end

/-- Neither a conversion of items nor the one that does nothing. -/
def isProper : Conversion → Bool
  | retag | elements _ => false
  | _ => true

/-- Items that are no arrays are converted wherever they stand, if the condition on them is one
that the items of an array share with it. -/
theorem Converts.elements_leaves {p : Value → Prop} (proper : item.isProper)
    (start : ∀ items, source.array.includes (.array items) → p (.array items))
    (down : ∀ items, p (.array items) → ∀ v ∈ items, p v)
    (each : ∀ v, (∀ items, v ≠ .array items) → p v →
      registry.Yields (target.includes ·) (item.apply registry v)) :
    item.elements.Converts registry source.array target.array := by
  have applied : ∀ items, item.elements.apply registry (.array items) =
      (mapLeafItems (item.apply registry) items).map .array := by
    intro items
    cases item with
    | elements inner => cases proper
    | _ => rfl
  intro v held
  rcases SqlType.includes_array_cases held with rfl | ⟨items, rfl⟩
  · have kept : item.elements.apply registry .null = .ok .null := by cases item <;> rfl
    exact kept ▸ Yields.ok rfl
  · rw [applied]
    refine (yields_mapLeafItems down each items (down items (start items held))).map ?_
    exact fun images included => SqlType.includes_array_iff.mpr included

/-- Items that are arrays themselves are converted as such. -/
theorem Converts.elements_nested
    (converts : item.elements.Converts registry element.array target) :
    item.elements.elements.Converts registry element.array.array target.array := by
  intro v held
  rw [apply]
  refine yields_strict fun known => ?_
  rcases SqlType.includes_array_cases held with rfl | ⟨items, rfl⟩
  · cases known
  · have each : ∀ v ∈ items, registry.Yields (target.includes ·)
        (item.elements.apply registry v) := fun v member =>
      converts v ((SqlType.includes_array_iff.mp held v member).elim id
        (SqlType.includes_of_nested v))
    refine (Yields.mapM each).map fun images included => ?_
    exact SqlType.includes_array_iff.mpr fun w member => .inl (included w member)

/-! ### Soundness -/

/-- A conversion that leads from the one type to the other, of a form that also serves for the
items of arrays over them. -/
inductive Sound (registry : Registry) : Conversion → SqlType → SqlType → Prop
  | retag {source target : SqlType} : (∀ v, source.includes v → target.includes v) →
      Sound registry retag source target
  /-- A conversion of values without items. -/
  | single {c : Conversion} {source target : SqlType} : source.element? = none → c.isProper →
      c.Converts registry source target → Sound registry c source target
  /-- A conversion that takes all values. -/
  | written {c : Conversion} {source target : SqlType} : c.isProper →
      (∀ v, registry.Yields (target.includes ·) (c.apply registry v)) →
      Sound registry c source target
  | nested {item : Conversion} {element target : SqlType} :
      item.elements.Converts registry element.array target →
      Sound registry item.elements element.array target

theorem Sound.converts (sound : Sound registry c source target) :
    c.Converts registry source target := by
  cases sound with
  | retag wider => exact Converts.retag wider
  | single _ _ converts => exact converts
  | written _ converts => exact fun v _ => converts v
  | nested converts => exact converts

theorem overItems_of_isProper (proper : item.isProper) : item.overItems = item.elements := by
  cases item <;> first | rfl | cases proper

theorem Sound.overItems (sound : Sound registry item source target) :
    Sound registry item.overItems source.array target.array := by
  cases sound with
  | retag wider => exact .retag (SqlType.includes_array_mono wider)
  | nested converts => exact .nested converts.elements_nested
  | written proper converts =>
      rw [overItems_of_isProper proper]
      exact .nested (Converts.elements_leaves proper (p := fun _ => True) (fun _ _ => trivial)
        (fun _ _ _ _ => trivial) fun v _ _ => converts v)
  | single noItems proper converts =>
      rw [overItems_of_isProper proper]
      refine .nested (Converts.elements_leaves proper (p := IsItem source) (fun _ => .inr) ?_ ?_)
      · rintro items (held | array) v member
        · rw [SqlType.not_includes_array noItems] at held
          cases held
        · exact SqlType.includes_array_iff.mp array v member
      · rintro v leaf (held | array)
        · exact converts v held
        · rcases SqlType.includes_array_cases array with rfl | ⟨items, rfl⟩
          · exact converts _ (SqlType.includes_null _)
          · exact absurd rfl (leaf items)

/-! ### Array literals -/

/-- Texts are kept as they are, or read as values of the type or of one with the same values. -/
theorem plan?_text_cases (planned : plan? (.text none) target true = some c)
    (noItems : target.element? = none) :
    (c = retag ∧ ∀ s, target.includes (.text s)) ∨
      ∃ type, c.ends? = some (.citext, type) ∧ ∀ v, type.includes v → target.includes v := by
  cases target with
  | array inner => cases noItems
  | text bound =>
      cases bound with
      | none =>
          cases planned
          exact .inl ⟨rfl, fun _ => rfl⟩
      | some limit =>
          cases planned
          exact .inr ⟨_, rfl, fun _ => id⟩
  | citext =>
      cases planned
      exact .inl ⟨rfl, fun _ => rfl⟩
  | jsonb =>
      cases planned
      exact .inr ⟨_, rfl, fun _ => SqlType.includes_json_iff.mp⟩
  | _ =>
      cases planned
      try exact .inr ⟨_, rfl, fun _ => id⟩

theorem yields_readScalar (numbered : registry.Numbered) (element : SqlType) (s : String) :
    registry.Yields (element.includes ·) (readScalar registry element s) := by
  unfold readScalar
  split
  · exact Yields.query _
  · rename_i noArray
    cases planned : plan? (.text none) element true with
    | none => exact Yields.cast _ _ _
    | some c =>
        have noItems : element.element? = none := by
          cases element with
          | array inner => exact absurd rfl (noArray inner)
          | _ => rfl
        show registry.Yields _ (applyToText registry c s)
        rcases plan?_text_cases planned noItems with ⟨rfl, texts⟩ | ⟨type, leads, wider⟩
        · exact Yields.ok (texts s)
        · exact (yields_applyToText numbered leads s).mono wider

mutual

theorem yields_readItem (numbered : registry.Numbered) (element : SqlType) (item : ArrayItem) :
    registry.Yields (IsItem element) (readItem registry item element) := by
  cases item with
  | null => exact Yields.ok (.inl (SqlType.includes_null element))
  | text s =>
      rw [readItem]
      exact (yields_readScalar numbered element s).mono fun _ => .inl
  | nested items =>
      cases element with
      | array inner =>
          rw [readItem]
          exact (yields_readItems numbered inner items).map fun images included =>
            .inl (SqlType.includes_array_iff.mpr included)
      | _ =>
          simp only [readItem]
          exact (yields_readItems numbered _ items).map fun images included =>
            .inr (SqlType.includes_array_iff.mpr included)

theorem yields_readItems (numbered : registry.Numbered) (element : SqlType)
    (items : List ArrayItem) :
    registry.Yields (fun images => ∀ w ∈ images, IsItem element w)
      (readItems registry items element) := by
  cases items with
  | nil => exact Yields.ok (List.forall_mem_nil _)
  | cons item rest =>
      rw [readItems]
      refine (yields_readItem numbered element item).bind fun w image => ?_
      refine (yields_readItems numbered element rest).bind fun images all => ?_
      exact Yields.ok (List.forall_mem_cons.mpr ⟨image, all⟩)

end

theorem Converts.textToArray (numbered : registry.Numbered) (element : SqlType) :
    (textToArray element).Converts registry .citext element.array := by
  intro v held
  refine yields_strict fun known => ?_
  cases v with
  | null => cases known
  | text s =>
      have parsed : registry.Yields (fun _ => True)
          (orFail (.query (.malformedArray s)) (ArrayItem.ofText? s)) :=
        Yields.orFail (.inl rfl) fun _ _ => trivial
      refine parsed.bind fun items _ => ?_
      refine (yields_readItems numbered element items).bind fun images included => ?_
      exact Yields.ok (SqlType.includes_array_iff.mpr included)
  | _ => cases held

/-! ### Planning -/

theorem Sound.of_ends {first last : SqlType} (numbered : registry.Numbered)
    (leads : c.ends? = some (first, last)) (noItems : source.element? = none)
    (fewer : ∀ v, source.includes v → first.includes v)
    (wider : ∀ v, last.includes v → target.includes v) : Sound registry c source target := by
  refine .single noItems ?_ ((Converts.of_ends numbered leads).mono fewer wider)
  cases c <;> first | rfl | cases leads

theorem planBound_sound (numbered : registry.Numbered) {limit bound : Option Nat}
    (noItems : source.element? = none) (texts : ∀ v, source.includes v → (SqlType.text limit).includes v) :
    Sound registry (planBound limit bound) source (.text bound) := by
  have unlimited : ∀ v, source.includes v → SqlType.citext.includes v :=
    fun v held => SqlType.includes_citext_of_text (texts v held)
  unfold planBound
  split
  · exact .retag fun v held => SqlType.includes_text_unbounded (unlimited v held)
  · split
    · rename_i larger
      exact .retag fun v held => SqlType.includes_text_mono larger (texts v held)
    · exact .of_ends numbered rfl noItems unlimited fun _ => id
  · exact .of_ends numbered rfl noItems unlimited fun _ => id

theorem retag_sound_of_same (either : source = target || source.isNull) :
    Sound registry .retag source target := by
  refine .retag fun v held => ?_
  simp only [Bool.or_eq_true, decide_eq_true_eq] at either
  rcases either with rfl | isNull
  · exact held
  · rw [SqlType.includes_of_isNull isNull held]
    exact SqlType.includes_null target

theorem implicit_sound (numbered : registry.Numbered) : ∀ {source target : SqlType} {c : Conversion},
    implicit? source target = some c → Sound registry c source target := by
  intro source
  induction source with
  | array a ih =>
      intro target c planned
      cases target with
      | array b =>
          simp only [implicit?] at planned
          split at planned
          · rename_i either
            cases planned
            exact (retag_sound_of_same either).overItems
          · obtain ⟨item, found, rfl⟩ := Option.map_eq_some_iff.mp planned
            exact (ih found).overItems
      | _ => cases planned
  | text limit =>
      intro target c planned
      have texts : ∀ v, (SqlType.text limit).includes v → SqlType.citext.includes v :=
        fun _ => SqlType.includes_citext_of_text
      cases target with
      | text bound =>
          cases planned
          exact planBound_sound numbered rfl fun _ => id
      | citext =>
          cases planned
          exact .retag texts
      | _ =>
          cases planned
          try exact .of_ends numbered rfl rfl texts fun _ => id
  | citext =>
      intro target c planned
      cases target with
      | text bound =>
          cases planned
          exact planBound_sound numbered rfl fun _ => SqlType.includes_text_unbounded
      | _ =>
          cases planned
          try exact .of_ends numbered rfl rfl (fun _ => id) fun _ => id
  | enum declared =>
      intro target c planned
      cases target with
      | text bound =>
          cases planned
          refine planBound_sound numbered rfl fun v held => ?_
          exact SqlType.includes_text_unbounded (SqlType.includes_citext_of_enum held)
      | _ => cases planned
  | _ =>
      intro target c planned
      cases target <;> cases planned <;> exact .of_ends numbered rfl rfl (fun _ => id) fun _ => id

theorem fromText_sound (numbered : registry.Numbered) (noItems : source.element? = none)
    (texts : ∀ v, source.includes v → SqlType.citext.includes v)
    (planned : fromText? target = some c) : Sound registry c source target := by
  cases target with
  | array element =>
      simp only [fromText?] at planned
      split at planned <;> cases planned
      exact .single noItems rfl ((Converts.textToArray numbered element).mono texts fun _ => id)
  | jsonb =>
      cases planned
      exact .of_ends numbered rfl noItems texts fun _ => SqlType.includes_json_iff.mp
  | _ =>
      cases planned
      try exact .of_ends numbered rfl noItems texts fun _ => id

theorem toText_sound (texts : ∀ s, target.includes (.text s)) :
    Sound registry toText source target :=
  .written rfl (yields_toText texts)

theorem boundedToText_sound (numbered : registry.Numbered) (limit : Nat) :
    Sound registry (toText.andThen (boundText limit)) source (.text (some limit)) := by
  have bounds : (boundText limit).Converts registry .citext (.text (some limit)) :=
    Converts.of_ends numbered rfl
  refine .written rfl fun v => ?_
  rw [apply]
  exact yields_strict fun _ => (yields_toText (fun _ => rfl) v).bind bounds

/-- Every type but the texts is written as text, by the same conversions. -/
theorem explicit?_toText (noText : source.isText = false) (limit : Option Nat) :
    explicit? source (.text limit) = some (match limit with
      | some limit => toText.andThen (boundText limit)
      | none => toText) ∧ explicit? source .citext = some toText := by
  cases limit <;> cases source <;> first | exact ⟨rfl, rfl⟩ | cases noText

theorem textTarget_sound (numbered : registry.Numbered) (noText : source.isText = false)
    (text : target.isText) (planned : explicit? source target = some c) :
    Sound registry c source target := by
  cases target with
  | text limit =>
      rw [(explicit?_toText noText limit).1] at planned
      cases limit <;> cases planned
      · exact toText_sound fun _ => rfl
      · exact boundedToText_sound numbered _
  | citext =>
      rw [(explicit?_toText noText none).2] at planned
      cases planned
      exact toText_sound fun _ => rfl
  | _ => cases text

theorem explicit_sound (numbered : registry.Numbered) : ∀ {source target : SqlType} {c : Conversion},
    explicit? source target = some c → Sound registry c source target := by
  intro source
  induction source with
  | array a ih =>
      intro target c planned
      cases target with
      | array b =>
          simp only [explicit?] at planned
          split at planned
          · rename_i either
            cases planned
            exact (retag_sound_of_same either).overItems
          · -- the items are converted implicitly if that is possible, else explicitly
            obtain ⟨item, found, rfl⟩ := Option.map_eq_some_iff.mp planned
            cases asked : implicit? a b with
            | some implicit =>
                rw [asked] at found
                cases found
                exact (implicit_sound numbered asked).overItems
            | none =>
                rw [asked] at found
                exact (ih found).overItems
      | text limit | citext => exact textTarget_sound numbered rfl rfl planned
      | _ => cases planned
  | text limit =>
      exact fun planned => fromText_sound numbered rfl (fun _ => SqlType.includes_citext_of_text) planned
  | citext => exact fun planned => fromText_sound numbered rfl (fun _ => id) planned
  | json =>
      intro target c planned
      cases target with
      | text limit | citext => exact textTarget_sound numbered rfl rfl planned
      | jsonb =>
          cases planned
          exact .retag fun _ => SqlType.includes_json_iff.mp
      | _ => cases planned
  | jsonb =>
      intro target c planned
      cases target with
      | text limit | citext => exact textTarget_sound numbered rfl rfl planned
      | json =>
          cases planned
          exact .retag fun _ => SqlType.includes_json_iff.mpr
      | _ => cases planned
  | _ =>
      intro target c planned
      cases target with
      | text limit | citext => exact textTarget_sound numbered rfl rfl planned
      | _ =>
          cases planned
          try exact .of_ends numbered rfl rfl (fun _ => id) fun _ => id

theorem plan_sound (numbered : registry.Numbered) {explicit : Bool}
    (planned : plan? source target explicit = some c) : Sound registry c source target := by
  rcases plan?_cases planned with ⟨rfl, either⟩ | found | found
  · exact retag_sound_of_same either
  · exact implicit_sound numbered found
  · exact explicit_sound numbered found

end Conversion

end SqlEngine
