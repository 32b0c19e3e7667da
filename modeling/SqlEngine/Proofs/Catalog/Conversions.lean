import SqlEngine.Proofs.Catalog.Linking
import SqlEngine.Proofs.Catalog.Names
import SqlEngine.Proofs.Types.ConversionSafety

/-!
Conversions that are planned never break an invariant.

Whatever value of the source type a planned conversion meets, it gives a value of the target type,
or an error that a user can cause: of the query, of the conversion, or because the catalog does not
know a name. The lookups of every catalog fail in this last way only.

Handles of relations and types hold names. A handle leads back to the number of what it was made of
as far as the bare name, read again, leads there.
-/

namespace SqlEngine

/-- The kinds of errors that conversions may end in. -/
def Conversion.expectedKinds : List ErrorKind := [.query, .cast, .typeNotFound, .relationNotFound]

/-! ### The registry of a catalog -/

namespace Catalog

variable {c : Catalog}

/-- Only enumerations have numbers that are not fixed. -/
theorem oid?_lt {type : SqlType} {number : Nat} (given : type.oid? = some number)
    (declared : ∀ d, type = .enum d → d.oid < Nat.pow 2 32) : number < Nat.pow 2 32 := by
  cases type with
  | enum d =>
      cases given
      exact declared d rfl
  | text limit => cases limit <;> cases given <;> decide
  | array element =>
      cases element with
      | text limit => cases limit <;> cases given <;> decide
      | _ => cases given <;> decide
  | _ => cases given <;> decide

theorem nested_eq_enum_iff {element : SqlType} {dims : Nat} {d : EnumDef} :
    element.nested dims = .enum d ↔ element = .enum d ∧ dims = 0 := by
  cases dims with
  | zero => exact (and_iff_left rfl).symm
  | succ dims => simp [SqlType.nested]

theorem builtin?_ne_enum {name : TypeName} {d : EnumDef} : name.builtin? ≠ some (.enum d) := by
  intro same
  obtain ⟨element, found, nested⟩ := Option.map_eq_some_iff.mp same
  obtain ⟨rfl, -⟩ := nested_eq_enum_iff.mp nested
  split at found
  · cases found
  · obtain ⟨entry, known, isEnum⟩ := Option.map_eq_some_iff.mp found
    have member := List.mem_of_find?_eq_some known
    have none : ∀ e ∈ TypeName.scalarNames, e.1.kind ≠ .enum := by decide +kernel
    exact none entry member (isEnum ▸ rfl)

/-- A name refers to an enumeration if it is no name of a built-in type, unless its schema rules
those out, and an enumeration is found under it. -/
theorem typeNamed_enum_iff {name : TypeName} {d : EnumDef} :
    c.typeNamed name = .ok (.enum d) ↔
      (name.schema.all (· == systemSchema) → name.builtin? = none) ∧ name.dims = 0 ∧
        ∃ id, c.find? ⟨name.schema, name.base⟩ = some (id, .type (.enum d)) := by
  rw [typeNamed]
  split
  · rename_i t builtin
    split at builtin
    · rename_i system
      refine iff_of_false ?_ ?_
      · intro same
        cases same
        exact builtin?_ne_enum builtin
      · rintro ⟨none, -⟩
        rw [none system] at builtin
        cases builtin
    · cases builtin
  · rename_i none
    have free : name.schema.all (· == systemSchema) → name.builtin? = Option.none := by
      intro system
      rwa [if_pos system] at none
    rw [and_iff_right free]
    split
    · rename_i id t there
      rw [there, Except.ok.injEq, nested_eq_enum_iff]
      simp [and_comm]
    · rename_i missing
      refine iff_of_false ?_ ?_
      · intro same
        cases same
      · rintro ⟨-, id, there⟩
        exact missing id _ there

/-- An enumeration that a name refers to is registered. -/
theorem Ordered.typeNamed_enum (ordered : c.Ordered) {name : TypeName} {d : EnumDef}
    (found : c.typeNamed name = .ok (.enum d)) : ∃ schema id, c.Has schema id (.type (.enum d)) := by
  obtain ⟨_, _, id, there⟩ := typeNamed_enum_iff.mp found
  obtain ⟨schema, has⟩ := ordered.find?_has there
  exact ⟨schema, id, has⟩

/-- The numbers of a catalog have 32 bits as long as its counter has. -/
theorem Registered.numbered (registered : c.Registered) (small : c.nextId ≤ Nat.pow 2 32) :
    c.registry.Numbered where
  types name type number found given := by
    refine oid?_lt given ?_
    rintro d rfl
    obtain ⟨schema, id, has⟩ := registered.ordered.typeNamed_enum found
    have numbered : d.oid = id := Option.some.inj (registered.placed _ _ _ has)
    exact numbered ▸ Nat.lt_of_lt_of_le (registered.bound _ _ _ has) small
  relations id number name found := by
    obtain ⟨⟨s, r⟩, held, same⟩ := Option.map_eq_some_iff.mp found
    cases same
    obtain ⟨_, has⟩ := registered.ordered.relation?_has held
    exact Nat.lt_of_lt_of_le (registered.bound _ _ _ has) small
  names text number name found := by
    simp only [registry] at found
    split at found
    · rename_i there
      cases found
      obtain ⟨_, has⟩ := registered.ordered.find?_has there
      exact Nat.lt_of_lt_of_le (registered.bound _ _ _ has) small
    · cases found

/-- The lookups of a catalog fail only because a name is not known. -/
theorem registry_raises (c : Catalog) {e : SqlError} (raised : c.registry.Raises e) :
    e.kind = .typeNotFound ∨ e.kind = .relationNotFound := by
  rcases raised with ⟨name, raised⟩ | ⟨name, raised⟩
  · simp only [registry, typeOfText, typeNamed] at raised
    split at raised
    · cases raised
    · split at raised <;> cases raised
      exact .inl rfl
  · simp only [registry] at raised
    split at raised <;> cases raised
    exact .inr rfl

end Catalog

/-! ### Safety -/

namespace Conversion

variable {source target : SqlType} {c : Conversion} {v : Value}

/-- A planned conversion takes every value of the source type to a value of the target type or
fails in an expected way, and never because it meets a value that it is not made for. Of the lookups
it is only assumed that they break no invariant either. -/
theorem apply_planned {registry : Registry} (numbered : registry.Numbered)
    (lookups : ∀ e, registry.Raises e → e.kind ≠ .internal) {explicit : Bool}
    (planned : plan? source target explicit = some c) (held : source.includes v) :
    match c.apply registry v with
    | .ok w => target.includes w
    | .error e => e.kind ≠ .internal ∧
        ((∀ raised, registry.Raises raised → raised.kind ∈ expectedKinds) →
          e.kind ∈ expectedKinds) := by
  have yields := (plan_sound numbered planned).converts v held
  cases applied : c.apply registry v with
  | ok w => exact yields.given w applied
  | error e =>
      rcases yields.fault e applied with query | cast | raised
      · simp [query, expectedKinds]
      · simp [cast, expectedKinds]
      · exact ⟨lookups e raised, fun expected => expected e raised⟩

/-- Texts in a nested array are read as integers, with the types that a new database knows. -/
theorem apply_planned_texts :
    plan? (.array (.text none)) (.array .integer) true = some (elements textToInt) ∧
      (SqlType.array (.text none)).includes (.array [.null, .array [.text " 7 ", .text "x"]]) ∧
      match (elements textToInt).apply (Catalog.create {}).registry
          (.array [.null, .array [.text " 7 ", .text "x"]]) with
      | .ok w => (SqlType.array .integer).includes w
      | .error e => e.kind ≠ .internal ∧
          ((∀ raised, (Catalog.create {}).registry.Raises raised → raised.kind ∈ expectedKinds) →
            e.kind ∈ expectedKinds) := by
  have planned : plan? (.array (.text none)) (.array .integer) true = some (elements textToInt) :=
    rfl
  have held : (SqlType.array (.text none)).includes
      (.array [.null, .array [.text " 7 ", .text "x"]]) := by decide +kernel
  have numbered := (Catalog.linked_create {}).registered.numbered (by decide +kernel)
  refine ⟨planned, held, apply_planned numbered (fun e raised => ?_) planned held⟩
  rcases Catalog.registry_raises _ raised with kind | kind <;> simp [kind]

/-- With the registry of a catalog, only errors of the expected kinds are left. -/
theorem apply_planned_catalog {catalog : Catalog} (registered : catalog.Registered)
    (small : catalog.nextId ≤ Nat.pow 2 32) {explicit : Bool}
    (planned : plan? source target explicit = some c) (held : source.includes v) {e : SqlError}
    (failed : c.apply catalog.registry v = .error e) : e.kind ∈ expectedKinds := by
  have yields := (plan_sound (registered.numbered small) planned).converts v held
  rcases yields.fault e failed with query | cast | raised
  · simp [query, expectedKinds]
  · simp [cast, expectedKinds]
  · rcases catalog.registry_raises raised with kind | kind <;> simp [kind, expectedKinds]

end Conversion

/-! ### Handles of relations

A handle keeps the bare name of what it stands for, and the name is read again when its number is
asked for. -/

namespace Catalog

open DottedName (Whole whole_of_snd)

variable {c : Catalog} {id : Nat} {r : Relation} {schema : String}

/-- A relation is found under its own name. -/
theorem Registered.find?_name (registered : c.Registered) {q : QName}
    (found : c.find? q = some (id, r)) : r.name = q.name := by
  have named {schema : String} (there : (c.schema? schema).bind (·.named? q.name) = some (id, r)) :
      r.name = q.name := by
    obtain ⟨s, held, there⟩ := Option.bind_eq_some_iff.mp there
    exact ((registered.maps_of held).named?_iff.mp there).2
  unfold find? at found
  split at found
  · exact named found
  · obtain ⟨schema, -, there⟩ := List.exists_of_findSome?_eq_some found
    exact named there

/-- Casts a value to a handle, and the handle to an integer. -/
def throughHandle (registry : Registry) (cast back : Conversion) (v : Value) :
    Except SqlError Value := do
  back.apply registry (← cast.apply registry v)

theorem throughHandle_relation {s : String} (worded : Numeral.nat32? (Text.trimmed s) = none)
    (found : c.find? (QName.ofText (Text.trimmed s)) = some (id, r)) :
    throughHandle c.registry .textToRegClass .regClassToInt (.text s) =
      Conversion.regClassNumber c.registry (.name r.name) := by
  have read : Conversion.readRegClass c.registry (Text.trimmed s) =
      .ok (.handle (.name r.name)) := by
    simp [Conversion.readRegClass, worded, registry, found, bind, Except.bind, pure, Except.pure]
  have cast : Conversion.textToRegClass.apply c.registry (.text s) =
      .ok (.handle (.name r.name)) := by
    simp only [Conversion.apply, Conversion.strict, Conversion.applyScalar, Conversion.applyToText,
      read]
    rfl
  rw [throughHandle, cast]
  rfl

theorem regClassNumber_iff {name : String} :
    Conversion.regClassNumber c.registry (.name name) = .ok (.int id) ↔
      ∃ q, c.find? (QName.ofText name) = some (id, q) := by
  cases found : c.find? (QName.ofText name) with
  | none => simp [Conversion.regClassNumber, registry, found, bind, Except.bind]
  | some e =>
      have number : Conversion.regClassNumber c.registry (.name name) = .ok (.int e.1) := by
        simp [Conversion.regClassNumber, registry, found, bind, Except.bind, pure, Except.pure]
      rw [number, Except.ok.injEq, Value.int.injEq, Int.natCast_inj]
      simp [Prod.ext_iff]

/-- A relation that a text names keeps its number through a handle if and only if its bare name
stands for itself and the search path leads to that relation. -/
theorem Registered.relation_handle_iff (registered : c.Registered) {s : String}
    (worded : Numeral.nat32? (Text.trimmed s) = none)
    (found : c.find? (QName.ofText (Text.trimmed s)) = some (id, r)) :
    throughHandle c.registry .textToRegClass .regClassToInt (.text s) = .ok (.int id) ↔
      Whole r.name ∧ c.find? ⟨none, r.name⟩ = some (id, r) := by
  obtain ⟨_, has⟩ := registered.ordered.find?_has found
  rw [throughHandle_relation worded found, regClassNumber_iff]
  constructor
  · rintro ⟨_, again⟩
    obtain ⟨_, has'⟩ := registered.ordered.find?_has again
    obtain rfl := registered.relation_unique has has'
    have whole := whole_of_snd (registered.find?_name again).symm
    rw [QName.ofText, whole] at again
    exact ⟨whole, again⟩
  · rintro ⟨whole, again⟩
    refine ⟨r, ?_⟩
    rw [QName.ofText, whole]
    exact again

/-- Without a schema in the text only the name matters. -/
theorem Registered.bare_handle_iff (registered : c.Registered) {s : String}
    (worded : Numeral.nat32? (Text.trimmed s) = none)
    (found : c.find? (QName.ofText (Text.trimmed s)) = some (id, r))
    (bare : (QName.ofText (Text.trimmed s)).schema = none) :
    throughHandle c.registry .textToRegClass .regClassToInt (.text s) = .ok (.int id) ↔
      Whole r.name := by
  have same : QName.ofText (Text.trimmed s) = ⟨none, r.name⟩ := by
    rw [registered.find?_name found, ← bare]
  rw [registered.relation_handle_iff worded found, ← same]
  exact and_iff_left found

/-! ### Handles of types -/

theorem Registered.typeByOid?_has (registered : c.Registered) {number : Nat} {type : SqlType}
    (found : c.typeByOid? number = some type) : ∃ schema, c.Has schema number (.type type) := by
  obtain ⟨⟨schema, s⟩, member, there⟩ := List.exists_of_findSome?_eq_some found
  have held := (registered.maps _ member).typeByOid?_iff.mp there
  have known := registered.ordered.schema?_iff.mpr member
  exact ⟨schema, (registered.ordered.get?_iff known).mp held⟩

/-- Numbers of the user belong to enumerations. -/
theorem enum_of_oid? {type : SqlType} {number : Nat} (given : type.oid? = some number)
    (own : firstUserId ≤ number) : ∃ d, type = .enum d := by
  have system {fixed : Nat} (same : some fixed = some number) (below : fixed < firstUserId) :
      False := by
    cases same
    exact absurd own (Nat.not_le_of_lt below)
  cases type with
  | enum d => exact ⟨d, rfl⟩
  | text limit => cases limit <;> exact (system given (by decide)).elim
  | array element =>
      cases element with
      | text limit => cases limit <;> exact (system given (by decide)).elim
      | _ => first | exact (system given (by decide)).elim | cases given
  | _ => first | exact (system given (by decide)).elim | cases given

theorem typeOfText_name {type : SqlType} (builtin : type.isBuiltin) :
    c.typeOfText type.name = .ok type := by
  rw [typeOfText, SqlType.ofText_name builtin, typeNamed, SqlType.schema_reference]
  simp only [Option.all_none, if_true, SqlType.builtin?_reference builtin]

theorem oid?_eq_some {i : Int} {number : Nat} (read : Conversion.oid? i = some number) :
    (number : Int) = i := by
  rw [Conversion.oid?] at read
  split at read
  · rename_i bounds
    cases read
    rw [Bool.and_eq_true, decide_eq_true_eq] at bounds
    exact Int.toNat_of_nonneg bounds.1
  · cases read

theorem throughHandle_type {i : Int} {type : SqlType}
    (found : (Conversion.oid? i).bind c.typeByOid? = some type) :
    throughHandle c.registry .intToRegType .regTypeToInt (.int i) =
      Conversion.regTypeNumber c.registry (.name type.name) := by
  have cast : Conversion.intToRegType.apply c.registry (.int i) =
      .ok (.handle (.name type.name)) := by
    simp only [Conversion.apply, Conversion.strict, Conversion.applyScalar, registry, found]
    rfl
  rw [throughHandle, cast]
  rfl

theorem regTypeNumber_iff {name : String} {number : Nat} :
    Conversion.regTypeNumber c.registry (.name name) = .ok (.int number) ↔
      ∃ type, c.typeOfText name = .ok type ∧ type.oid? = some number := by
  cases found : c.typeOfText name with
  | error e => simp [Conversion.regTypeNumber, registry, found, bind, Except.bind]
  | ok type =>
      cases numbered : type.oid? with
      | none =>
          simp [Conversion.regTypeNumber, registry, found, numbered, Conversion.orFail, bind,
            Except.bind]
      | some own =>
          have read : Conversion.regTypeNumber c.registry (.name name) = .ok (.int own) := by
            simp [Conversion.regTypeNumber, registry, found, numbered, Conversion.orFail, bind,
              Except.bind, pure, Except.pure]
          rw [read, Except.ok.injEq, Value.int.injEq, Int.natCast_inj]
          simp [numbered]

/-- Built-in types keep their numbers through handles. -/
theorem Registered.builtin_handle (registered : c.Registered) {i : Int} {type : SqlType}
    (found : (Conversion.oid? i).bind c.typeByOid? = some type) (builtin : type.isBuiltin) :
    throughHandle c.registry .intToRegType .regTypeToInt (.int i) = .ok (.int i) := by
  rw [throughHandle_type found]
  obtain ⟨number, read, known⟩ := Option.bind_eq_some_iff.mp found
  obtain ⟨schema, has⟩ := registered.typeByOid?_has known
  rw [← oid?_eq_some read]
  exact regTypeNumber_iff.mpr ⟨type, typeOfText_name builtin, registered.placed _ _ _ has⟩

/-- An enumeration keeps its number through handles if and only if its name, read as the name of a
type, is the name itself, is no name of a built-in type, and the search path leads to it. -/
theorem Registered.enum_handle_iff (registered : c.Registered) {i : Int} {d : EnumDef}
    (found : (Conversion.oid? i).bind c.typeByOid? = some (.enum d)) (own : firstUserId ≤ d.oid) :
    throughHandle c.registry .intToRegType .regTypeToInt (.int i) = .ok (.int i) ↔
      (TypeName.ofText d.name).base = d.name ∧ (TypeName.ofText d.name).dims = 0 ∧
        (TypeName.ofText d.name).builtin? = none ∧
        c.find? ⟨none, d.name⟩ = some (d.oid, .type (.enum d)) := by
  have name : (SqlType.enum d).name = d.name := rfl
  rw [throughHandle_type found, name]
  obtain ⟨number, read, known⟩ := Option.bind_eq_some_iff.mp found
  obtain ⟨schema, has⟩ := registered.typeByOid?_has known
  obtain rfl : d.oid = number := Option.some.inj (registered.placed _ _ _ has)
  rw [← oid?_eq_some read, regTypeNumber_iff]
  constructor
  · rintro ⟨type, named, numbered⟩
    obtain ⟨e, rfl⟩ := enum_of_oid? numbered own
    obtain ⟨other, flat, id, there⟩ := typeNamed_enum_iff.mp named
    obtain ⟨_, again⟩ := registered.ordered.find?_has there
    obtain rfl : id = d.oid :=
      Option.some.inj ((registered.placed _ _ _ again).symm.trans numbered)
    cases registered.relation_unique has again
    have base : (TypeName.ofText d.name).base = d.name := (registered.find?_name there).symm
    have bare := TypeName.schema_of_base base
    rw [bare] at other there
    rw [base] at there
    exact ⟨base, flat, other rfl, there⟩
  · rintro ⟨base, flat, other, there⟩
    refine ⟨.enum d, typeNamed_enum_iff.mpr ⟨fun _ => other, flat, d.oid, ?_⟩, rfl⟩
    rwa [TypeName.schema_of_base base, base]

end Catalog

end SqlEngine
