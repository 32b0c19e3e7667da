import SqlEngine.Proofs.Run
import SqlEngine.Proofs.Storage.ValueOrder
import SqlEngine.Types.Conversion

/-!
Which values the columns of a type can hold, as far as their order depends on it, and that
conversions give values of the type they lead to.

Floats and integers never meet under one type, and documents only stand under the types of documents.
Arrays count as what they are made of, since an array type of one dimension also holds nested arrays
and an item that is read from one of those is an array again.
-/

namespace SqlEngine

/-! ### Values of a type -/

namespace SqlType

/-- Do the values of the type have to fit floats, or else integers? The values of the null type have
to fit both, and documents neither. -/
def demands (real : Bool) : SqlType → Bool
  | null => true
  | float => real
  | json | jsonb => false
  | array element => element.demands real
  | _ => !real

def Admits (type : SqlType) (v : Value) : Prop := ∀ real, type.demands real → v.fits real

variable {type source target element : SqlType} {v : Value}

theorem Admits.mono (fewer : ∀ real, target.demands real → source.demands real)
    (admitted : source.Admits v) : target.Admits v :=
  fun real demanded => admitted real (fewer real demanded)

/-- What is neither a number nor a document, nor made of such, stands under every type. -/
theorem admits_of_fits (fit : ∀ real, v.fits real) : type.Admits v := fun real _ => fit real

theorem admits_null : type.Admits .null := admits_of_fits fun _ => rfl

theorem admits_bool (b : Bool) : type.Admits (.bool b) := admits_of_fits fun _ => rfl

theorem admits_text (s : String) : type.Admits (.text s) := admits_of_fits fun _ => rfl

theorem admits_handle (h : Handle) : type.Admits (.handle h) := admits_of_fits fun _ => rfl

theorem admits_int_iff (i : Int) : type.Admits (.int i) ↔ type.demands true = false := by
  constructor
  · intro admitted
    by_contra demanded
    exact absurd (admitted true (by simpa using demanded)) (by simp [Value.fits])
  · rintro free (_ | _) demanded
    · rfl
    · rw [free] at demanded
      contradiction

theorem admits_float_iff (x : Double) : type.Admits (.float x) ↔ type.demands false = false := by
  constructor
  · intro admitted
    by_contra demanded
    exact absurd (admitted false (by simpa using demanded)) (by simp [Value.fits])
  · rintro free (_ | _) demanded
    · rw [free] at demanded
      contradiction
    · rfl

theorem admits_int (i : Int) : integer.Admits (.int i) := (admits_int_iff i).mpr rfl

theorem admits_float (x : Double) : float.Admits (.float x) := (admits_float_iff x).mpr rfl

theorem admits_json (v : Value) : json.Admits v := fun _ demanded => by contradiction

theorem admits_jsonb (v : Value) : jsonb.Admits v := fun _ demanded => by contradiction

theorem admits_items {items : List Value} : type.Admits (.array items) ↔ ∀ v ∈ items, type.Admits v := by
  constructor
  · intro admitted v member real demanded
    exact (Value.fitsAll_iff real items).mp (admitted real demanded) v member
  · intro each real demanded
    exact (Value.fitsAll_iff real items).mpr fun v member => each v member real demanded

theorem admits_array_iff : (array element).Admits v ↔ element.Admits v := Iff.rfl

theorem demands_of_isNull (isNull : type.isNull) (real : Bool) : type.demands real := by
  cases type with
  | null => rfl
  | _ => contradiction

/-- The types of numbers, of documents and of nothing apart, all types have the same values here. -/
def isPlain : SqlType → Bool
  | null | float | json | jsonb => false
  | array element => element.isPlain
  | _ => true

theorem demands_of_isPlain (plain : type.isPlain) (real : Bool) : type.demands real = !real := by
  induction type with
  | array element ih => exact ih plain
  | _ => first | rfl | contradiction

/-! ### Keys -/

/-- The values of a type whose order is total hold numbers of one kind at most. -/
theorem exists_demands (total : type.hasTotalOrder) : ∃ real, type.demands real := by
  induction type with
  | array element ih => exact ih total
  | float => exact ⟨true, rfl⟩
  | json => contradiction
  | jsonb => contradiction
  | _ => exact ⟨false, rfl⟩

theorem totalOn_admits (total : type.hasTotalOrder) : TotalOn Value.order type.Admits := by
  obtain ⟨real, demanded⟩ := exists_demands total
  exact (Value.totalOn_fits real).mono fun v admitted => admitted real demanded

mutual

theorem Admits.canonical : ∀ {type : SqlType} {v : Value}, type.Admits v →
    type.Admits (type.canonical v)
  | type, v, admitted => by
      unfold SqlType.canonical
      split
      · exact admits_text _
      · split
        · exact (admits_int_iff _).mpr rfl
        · exact admits_text _
      · exact admits_items.mpr (canonicalItems_admitted _ _ (admits_items.mp admitted))
      · exact admitted

theorem canonicalItems_admitted (element : SqlType) : ∀ items : List Value,
    (∀ v ∈ items, element.Admits v) → ∀ v ∈ canonicalItems element items, element.Admits v
  | [], _ => by simp [canonicalItems]
  | v :: rest, each => by
      obtain ⟨first, others⟩ := List.forall_mem_cons.mp each
      rw [canonicalItems]
      exact List.forall_mem_cons.mpr ⟨first.canonical, canonicalItems_admitted element rest others⟩

end

end SqlType

/-! ### What conversions give -/

open Run (map_ok bind_ok mapM_ok)

namespace Conversion

variable {registry : Registry} {c first second : Conversion} {source target middle : SqlType}
  {v w : Value}

/-- A type with the numbers that the conversion gives, if they are the same whatever it is applied
to. -/
def yields? : Conversion → Option SqlType
  | retag | elements _ | andThen _ _ | textToArray _ => none
  | intToFloat | textToFloat => some .float
  | textToJson => some .json
  | _ => some .integer

/-- Applied to values of the one type, the conversion gives values of the other. -/
def Turns (c : Conversion) (source target : SqlType) : Prop :=
  ∀ registry v w, source.Admits v → c.apply registry v = .ok w → target.Admits w

theorem strict_ok {f : Value → Except SqlError Value} (given : strict f v = .ok w) :
    w = .null ∨ f v = .ok w := by
  unfold strict at given
  split at given
  · exact .inl (by cases given; rfl)
  · exact .inr given

/-! ### Values without items -/

theorem Shape.read?_fits {shape : Shape} {s : String} (found : shape.read? s = some w)
    (real : Bool) : w.fits real := by
  cases shape <;> obtain ⟨_, _, rfl⟩ := Option.map_eq_some_iff.mp found <;> rfl

theorem orFail_ok {α : Type} {e : SqlError} {a? : Option α} {a : α} (given : orFail e a? = .ok a) :
    a? = some a := by
  cases a? with
  | none => cases given
  | some b => exact congrArg some (Except.ok.inj given)

theorem readRegClass_ok {s : String} (given : readRegClass registry s = .ok w) :
    ∃ h, w = .handle h := by
  unfold readRegClass at given
  split at given
  · split at given <;> cases given <;> exact ⟨_, rfl⟩
  · obtain ⟨relation, _, found⟩ := bind_ok given
    cases found
    exact ⟨_, rfl⟩

theorem applyToText_ok {s : String} (given : applyToText registry c s = .ok w) :
    w = .text s ∨ ∃ type, c.yields? = some type ∧ type.Admits w := by
  unfold applyToText at given
  split at given
  · exact .inl (Except.ok.inj given).symm
  · exact .inl (Except.ok.inj given).symm
  · split at given <;> cases given
    exact .inl rfl
  · obtain ⟨b, _, rfl⟩ := map_ok given
    exact .inr ⟨_, rfl, SqlType.admits_bool b⟩
  · obtain ⟨i, _, rfl⟩ := map_ok given
    exact .inr ⟨_, rfl, SqlType.admits_int i⟩
  · obtain ⟨x, _, rfl⟩ := map_ok given
    exact .inr ⟨_, rfl, SqlType.admits_float x⟩
  · obtain ⟨_, _, rfl⟩ := map_ok given
    exact .inr ⟨_, rfl, SqlType.admits_of_fits fun _ => rfl⟩
  · obtain ⟨_, _, rfl⟩ := map_ok given
    exact .inr ⟨_, rfl, SqlType.admits_of_fits fun _ => rfl⟩
  · obtain ⟨_, _, rfl⟩ := map_ok given
    exact .inr ⟨_, rfl, SqlType.admits_of_fits fun _ => rfl⟩
  · obtain ⟨_, _, rfl⟩ := map_ok given
    exact .inr ⟨_, rfl, SqlType.admits_of_fits fun _ => rfl⟩
  · obtain ⟨_, _, rfl⟩ := map_ok given
    exact .inr ⟨_, rfl, SqlType.admits_of_fits fun _ => rfl⟩
  · exact .inr ⟨_, rfl, SqlType.admits_json w⟩
  · split at given <;> cases given
    exact .inl rfl
  · exact .inr ⟨_, rfl, SqlType.admits_of_fits (Shape.read?_fits (orFail_ok given))⟩
  · obtain ⟨type, _, found⟩ := bind_ok given
    cases found
    exact .inr ⟨_, rfl, SqlType.admits_handle _⟩
  · obtain ⟨h, rfl⟩ := readRegClass_ok given
    exact .inr ⟨_, rfl, SqlType.admits_handle h⟩
  · cases given

theorem regTypeNumber_ok {h : Handle} (given : regTypeNumber registry h = .ok w) :
    ∃ i : Int, w = .int i := by
  cases h with
  | id id => exact ⟨_, (Except.ok.inj given).symm⟩
  | name name =>
      obtain ⟨type, _, given⟩ := bind_ok given
      obtain ⟨number, _, given⟩ := bind_ok given
      exact ⟨_, (Except.ok.inj given).symm⟩

theorem regClassNumber_ok {h : Handle} (given : regClassNumber registry h = .ok w) :
    ∃ i : Int, w = .int i := by
  cases h with
  | id id => exact ⟨_, (Except.ok.inj given).symm⟩
  | name name =>
      obtain ⟨relation, _, given⟩ := bind_ok given
      exact ⟨_, (Except.ok.inj given).symm⟩

/-- A conversion that does not look at items gives the value as it is, a text, or what it yields. -/
theorem applyScalar_ok (given : applyScalar registry c v = .ok w) :
    (c = retag ∧ w = v) ∨ (∃ s, w = .text s ∧ v = .text s) ∨
      ∃ type, c.yields? = some type ∧ type.Admits w := by
  unfold applyScalar at given
  split at given
  · rename_i s
    rcases applyToText_ok given with rfl | yielded
    · exact .inr (.inl ⟨s, rfl, rfl⟩)
    · exact .inr (.inr yielded)
  · exact .inl ⟨rfl, (Except.ok.inj given).symm⟩
  all_goals try (cases given; exact .inr (.inr ⟨_, rfl, SqlType.admits_of_fits fun _ => rfl⟩))
  · cases given
    exact .inr (.inr ⟨_, rfl, SqlType.admits_float _⟩)
  · cases given
    exact .inr (.inr ⟨_, rfl, SqlType.admits_int _⟩)
  · cases given
    exact .inr (.inr ⟨_, rfl, SqlType.admits_int _⟩)
  · cases given
    exact .inr (.inr ⟨_, rfl, SqlType.admits_int _⟩)
  · split at given <;> cases given
    exact .inr (.inr ⟨_, rfl, SqlType.admits_handle _⟩)
  · split at given <;> cases given
    exact .inr (.inr ⟨_, rfl, SqlType.admits_handle _⟩)
  · obtain ⟨i, rfl⟩ := regTypeNumber_ok given
    exact .inr (.inr ⟨_, rfl, SqlType.admits_int i⟩)
  · obtain ⟨i, rfl⟩ := regClassNumber_ok given
    exact .inr (.inr ⟨_, rfl, SqlType.admits_int i⟩)
  · cases given

theorem apply_eq_strict (known : c.yields? ≠ none) :
    c.apply registry = strict (c.applyScalar registry) := by
  cases c with
  | elements item => exact absurd rfl known
  | andThen first second => exact absurd rfl known
  | textToArray element => exact absurd rfl known
  | _ => rfl

/-- A conversion between types without items. -/
theorem Turns.of_yields {type : SqlType} (known : c.yields? = some type)
    (demanded : ∀ real, target.demands real → type.demands real) : c.Turns source target := by
  intro registry v w _ given
  rw [apply_eq_strict (by simp [known])] at given
  rcases strict_ok given with rfl | given
  · exact SqlType.admits_null
  · rcases applyScalar_ok given with ⟨rfl, _⟩ | ⟨s, rfl, _⟩ | ⟨yielded, found, admitted⟩
    · cases known
    · exact SqlType.admits_text s
    · rw [known] at found
      cases found
      exact admitted.mono demanded

theorem Turns.retag (demanded : ∀ real, target.demands real → source.demands real) :
    retag.Turns source target := by
  intro registry v w admitted given
  rcases strict_ok given with rfl | given
  · exact SqlType.admits_null
  · rcases applyScalar_ok given with ⟨_, rfl⟩ | ⟨s, rfl, _⟩ | ⟨_, found, _⟩
    · exact admitted.mono demanded
    · exact SqlType.admits_text s
    · cases found

theorem Turns.andThen (one : first.Turns source middle) (two : second.Turns middle target) :
    (first.andThen second).Turns source target := by
  intro registry v w admitted given
  rw [apply] at given
  rcases strict_ok given with rfl | given
  · exact SqlType.admits_null
  · obtain ⟨u, converted, given⟩ := bind_ok given
    exact two registry u w (one registry v u admitted converted) given

/-! ### Arrays -/

variable {element : SqlType}

mutual

theorem mapLeaves_ok {f : Value → Except SqlError Value}
    (each : ∀ v w, source.Admits v → f v = .ok w → target.Admits w) :
    ∀ {v w : Value}, source.Admits v → mapLeaves f v = .ok w → target.Admits w
  | .array items, w, admitted, given => by
      rw [mapLeaves] at given
      obtain ⟨images, mapped, rfl⟩ := map_ok given
      exact SqlType.admits_items.mpr (mapLeafItems_ok each (SqlType.admits_items.mp admitted) mapped)
  | v, w, admitted, given => by
      unfold mapLeaves at given
      split at given
      · obtain ⟨images, mapped, rfl⟩ := map_ok given
        exact SqlType.admits_items.mpr
          (mapLeafItems_ok each (SqlType.admits_items.mp admitted) mapped)
      · exact each _ _ admitted given

theorem mapLeafItems_ok {f : Value → Except SqlError Value}
    (each : ∀ v w, source.Admits v → f v = .ok w → target.Admits w) :
    ∀ {items images : List Value}, (∀ v ∈ items, source.Admits v) →
      mapLeafItems f items = .ok images → ∀ w ∈ images, target.Admits w
  | [], images, _, given => by
      cases given
      simp
  | v :: rest, images, admitted, given => by
      obtain ⟨first, others⟩ := List.forall_mem_cons.mp admitted
      rw [mapLeafItems] at given
      obtain ⟨w, one, given⟩ := bind_ok given
      obtain ⟨ws, more, given⟩ := bind_ok given
      cases given
      exact List.forall_mem_cons.mpr
        ⟨mapLeaves_ok each first one, mapLeafItems_ok each others more⟩

end

theorem applyScalar_elements_ok {item : Conversion}
    (given : applyScalar registry (elements item) v = .ok w) : False := by
  rcases applyScalar_ok given with ⟨found, _⟩ | ⟨s, _, rfl⟩ | ⟨_, found, _⟩
  · cases found
  · cases given
  · cases found

/-- Arrays are converted item by item, in one way or the other. -/
theorem apply_elements (registry : Registry) (item : Conversion) :
    ∃ f : List Value → Except SqlError (List Value),
      (f = List.mapM (item.apply registry) ∨ f = mapLeafItems (item.apply registry)) ∧
        ∀ v, item.elements.apply registry v = strict (fun
          | .array items => (f items).map .array
          | v => applyScalar registry item.elements v) v := by
  cases item with
  | elements inner => exact ⟨_, .inl rfl, fun _ => rfl⟩
  | _ => exact ⟨_, .inr rfl, fun _ => rfl⟩

theorem Turns.elements {item : Conversion} (turns : item.Turns source target) :
    item.elements.Turns source.array target.array := by
  intro registry v w admitted given
  obtain ⟨f, either, applied⟩ := apply_elements registry item
  rw [applied] at given
  rcases strict_ok given with rfl | given
  · exact SqlType.admits_null
  · split at given
    · obtain ⟨images, mapped, rfl⟩ := map_ok given
      have inside := SqlType.admits_items.mp (SqlType.admits_array_iff.mp admitted)
      refine SqlType.admits_array_iff.mpr (SqlType.admits_items.mpr ?_)
      rcases either with rfl | rfl
      · exact mapM_ok (fun u member w => turns registry u w (inside u member)) mapped
      · exact mapLeafItems_ok (turns registry) inside mapped
    · exact (applyScalar_elements_ok given).elim

theorem Turns.overItems {item : Conversion} (turns : item.Turns source target) :
    item.overItems.Turns source.array target.array := by
  unfold Conversion.overItems
  split
  · exact turns
  · exact turns.elements

/-! ### Array literals -/

mutual

theorem readItem_ok (read : ∀ (element : SqlType) s w, readScalar registry element s = .ok w →
      element.Admits w) : ∀ {item : ArrayItem} {element : SqlType} {w : Value},
    readItem registry item element = .ok w → element.Admits w
  | .null, element, w, given => by
      rw [readItem] at given
      cases given
      exact SqlType.admits_null
  | .text s, element, w, given => by
      rw [readItem] at given
      exact read element s w given
  | .nested items, element, w, given => by
      cases element with
      | array inner =>
          rw [readItem] at given
          obtain ⟨images, nested, rfl⟩ := map_ok given
          have inside : ∀ u ∈ images, inner.Admits u := readItems_ok read nested
          exact SqlType.admits_array_iff.mpr (SqlType.admits_items.mpr inside)
      | _ =>
          simp only [readItem] at given
          obtain ⟨images, nested, rfl⟩ := map_ok given
          exact SqlType.admits_items.mpr (readItems_ok read nested)

theorem readItems_ok (read : ∀ (element : SqlType) s w, readScalar registry element s = .ok w →
      element.Admits w) : ∀ {items : List ArrayItem} {element : SqlType} {images : List Value},
    readItems registry items element = .ok images → ∀ w ∈ images, element.Admits w
  | [], element, images, given => by
      rw [readItems] at given
      cases given
      simp
  | item :: rest, element, images, given => by
      rw [readItems] at given
      obtain ⟨w, one, given⟩ := bind_ok given
      obtain ⟨ws, more, given⟩ := bind_ok given
      cases given
      exact List.forall_mem_cons.mpr ⟨readItem_ok read one, readItems_ok read more⟩

end

/-! ### The conversions that are planned -/

theorem planBound_turns (limit bound : Option Nat) (plain : source.isPlain)
    (other : target.isPlain) : (planBound limit bound).Turns source target := by
  have demanded : ∀ real, target.demands real → source.demands real := by
    intro real demanded
    rwa [SqlType.demands_of_isPlain plain, ← SqlType.demands_of_isPlain other]
  have bounds : ∀ most, (boundText most).Turns source target := fun most =>
    Turns.of_yields rfl fun real demanded => by
      rwa [SqlType.demands_of_isPlain other] at demanded
  unfold planBound
  split
  · exact Turns.retag demanded
  · split
    · exact Turns.retag demanded
    · exact bounds _
  · exact bounds _

theorem planBound_yields {limit bound : Option Nat} {type : SqlType}
    (yields : (planBound limit bound).yields? = some type) : type = .integer := by
  unfold planBound at yields
  split at yields
  · cases yields
  · split at yields <;> cases yields
    rfl
  · cases yields
    rfl

theorem Turns.retag_of_same (either : source = target || source.isNull) :
    Conversion.retag.Turns source target := by
  refine Turns.retag fun real demanded => ?_
  simp only [Bool.or_eq_true, decide_eq_true_eq] at either
  rcases either with rfl | isNull
  · exact demanded
  · exact SqlType.demands_of_isNull isNull real

theorem implicit_turns : ∀ {source target : SqlType} {c : Conversion},
    implicit? source target = some c → c.Turns source target := by
  intro source
  induction source with
  | array a ih =>
      intro target c planned
      cases target with
      | array b =>
          simp only [implicit?] at planned
          split at planned
          · rename_i either
            cases planned
            exact Turns.overItems (Turns.retag_of_same either)
          · obtain ⟨item, found, rfl⟩ := Option.map_eq_some_iff.mp planned
            exact (ih found).overItems
      | _ => cases planned
  | _ =>
      intro target c planned
      cases target <;> cases planned <;>
        first
          | exact planBound_turns _ _ rfl rfl
          | exact Turns.retag fun _ demanded => demanded
          | exact Turns.of_yields rfl fun _ demanded => demanded

theorem plan?_cases {explicit : Bool} (planned : plan? source target explicit = some c) :
    (c = retag ∧ (source = target || source.isNull)) ∨ implicit? source target = some c ∨
      explicit? source target = some c := by
  unfold plan? at planned
  split at planned
  · exact .inl ⟨(Option.some.inj planned).symm, ‹_›⟩
  · cases found : implicit? source target with
    | some found =>
        rw [found] at planned
        exact .inr (.inl planned)
    | none =>
        rw [found] at planned
        cases explicit with
        | true => exact .inr (.inr planned)
        | false => cases planned

/-- What is read from a text has the numbers of the type that it is read as. -/
theorem planned_yields {limit : Option Nat} {explicit : Bool} {type : SqlType}
    (planned : plan? (.text limit) target explicit = some c) (noArray : target.element? = none)
    (yields : c.yields? = some type) {real : Bool} (demanded : target.demands real) :
    type.demands real := by
  rcases plan?_cases planned with ⟨rfl, _⟩ | found | found
  · cases yields
  · cases target with
    | text bound =>
        cases found
        rw [planBound_yields yields]
        exact demanded
    | _ => cases found <;> cases yields <;> exact demanded
  · cases target with
    | array element => cases noArray
    | _ => cases found <;> cases yields <;> exact demanded

theorem readScalar_admitted {s : String} (given : readScalar registry target s = .ok w) :
    target.Admits w := by
  unfold readScalar at given
  split at given
  · cases given
  · rename_i noArray
    obtain ⟨c, planned, given⟩ := bind_ok given
    have planned := orFail_ok planned
    have single : target.element? = none := by
      cases target with
      | array element => exact absurd rfl (noArray element)
      | _ => rfl
    rcases applyScalar_ok given with ⟨_, rfl⟩ | ⟨t, rfl, _⟩ | ⟨type, yields, admitted⟩
    · exact SqlType.admits_text s
    · exact SqlType.admits_text t
    · exact admitted.mono fun _ demanded => planned_yields planned single yields demanded

theorem Turns.textToArray : (textToArray element).Turns source element.array := by
  intro registry v w _ given
  rcases strict_ok given with rfl | given
  · exact SqlType.admits_null
  · split at given
    · obtain ⟨items, _, given⟩ := bind_ok given
      obtain ⟨images, read, given⟩ := bind_ok given
      cases given
      exact SqlType.admits_array_iff.mpr (SqlType.admits_items.mpr
        (readItems_ok (fun _ _ _ => readScalar_admitted) read))
    · rcases applyScalar_ok given with ⟨found, _⟩ | ⟨s, rfl, rfl⟩ | ⟨_, found, _⟩
      · cases found
      · exact SqlType.admits_text s
      · cases found

theorem fromText_turns (planned : fromText? target = some c) : c.Turns source target := by
  cases target with
  | array element =>
      simp only [fromText?] at planned
      split at planned <;> cases planned
      exact Turns.textToArray
  | _ => cases planned <;> exact Turns.of_yields rfl fun _ demanded => demanded

theorem toText_turns (limit : Option Nat) : toText.Turns source (.text limit) :=
  Turns.of_yields rfl fun _ demanded => demanded

theorem boundText_turns (limit : Nat) : (boundText limit).Turns source (.text (some limit)) :=
  Turns.of_yields rfl fun _ demanded => demanded

/-- Every type is written as text in the same way. -/
theorem written_turns {limit : Option Nat}
    (planned : (match limit with
      | some limit => some (toText.andThen (boundText limit))
      | none => some toText) = some c) : c.Turns source (.text limit) := by
  cases limit with
  | some limit =>
      cases planned
      exact (toText_turns none).andThen (boundText_turns limit)
  | none =>
      cases planned
      exact toText_turns none

theorem explicit_turns : ∀ {source target : SqlType} {c : Conversion},
    explicit? source target = some c → c.Turns source target := by
  intro source
  induction source with
  | array a ih =>
      intro target c planned
      cases target with
      | array b =>
          simp only [explicit?] at planned
          split at planned
          · rename_i either
            cases planned
            exact Turns.overItems (Turns.retag_of_same either)
          · obtain ⟨item, found, rfl⟩ := Option.map_eq_some_iff.mp planned
            cases asked : implicit? a b with
            | some implicit =>
                rw [asked] at found
                cases found
                exact (implicit_turns asked).overItems
            | none =>
                rw [asked] at found
                exact (ih found).overItems
      | text limit => cases limit <;> exact written_turns planned
      | citext =>
          cases planned
          exact Turns.of_yields rfl fun _ demanded => demanded
      | _ => cases planned
  | text limit => exact fun planned => fromText_turns planned
  | citext => exact fun planned => fromText_turns planned
  | _ =>
      intro target c planned
      cases target with
      | text limit => cases limit <;> exact written_turns planned
      | _ =>
          cases planned <;>
            first
              | exact Turns.retag fun _ demanded => demanded
              | exact Turns.of_yields rfl fun _ demanded => demanded

theorem plan_turns {explicit : Bool} (planned : plan? source target explicit = some c) :
    c.Turns source target := by
  rcases plan?_cases planned with ⟨rfl, either⟩ | found | found
  · exact Turns.retag_of_same either
  · exact implicit_turns found
  · exact explicit_turns found

end Conversion

end SqlEngine
