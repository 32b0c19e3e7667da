import SqlEngine.Proofs.Run
import SqlEngine.Storage.Sequence

/-!
Sequences and their bounds.

The clauses of a statement come in any order and number, and the last one of each kind counts. They
give options with a step, a range, a start within it, a cache and a known type, or none at all,
whatever statements went before. The type gives the bounds that are not asked for, but neither the
bounds that are asked for nor the ones that an altered sequence keeps are held against it.

A counter that was called goes on within the bounds, wherever it stands. A counter that waits hands
out the number that it waits with as it is: the bounds are looked at when the counter is moved, but
neither when it is told to begin again nor when the bounds themselves change.
-/

namespace SqlEngine

open Run (bind_ok)

/-! ### Clauses -/

namespace SequenceClause

def type? : SequenceClause → Option String
  | as type => some type
  | _ => none

def increment? : SequenceClause → Option Int
  | increment by_ => some by_
  | _ => none

def min? : SequenceClause → Option (Option Int)
  | minValue value => some value
  | _ => none

def max? : SequenceClause → Option (Option Int)
  | maxValue value => some value
  | _ => none

def start? : SequenceClause → Option Int
  | start value => some value
  | _ => none

def restart? : SequenceClause → Option (Option Int)
  | restart value => some value
  | _ => none

def cache? : SequenceClause → Option Int
  | cache size => some size
  | _ => none

def cycle? : SequenceClause → Option Bool
  | cycle on => some on
  | _ => none

def ownedBy? : SequenceClause → Option (Option String)
  | ownedBy column => some column
  | _ => none

/-- What the last clause of a kind says. -/
def last? {α : Type} (kind : SequenceClause → Option α) (clauses : List SequenceClause) :
    Option α :=
  (clauses.filterMap kind).getLast?

@[simp] theorem last?_nil {α : Type} (kind : SequenceClause → Option α) :
    last? kind [] = none := rfl

@[simp] theorem last?_cons {α : Type} (kind : SequenceClause → Option α) (c : SequenceClause)
    (rest : List SequenceClause) : last? kind (c :: rest) = (last? kind rest).or (kind c) := by
  cases said : kind c with
  | none => simp [last?, said]
  | some a =>
      rw [last?, List.filterMap_cons_some said, List.getLast?_cons]
      cases later : (rest.filterMap kind).getLast? <;> simp [last?, later]

end SequenceClause

namespace SequenceOptions

open SequenceClause

/-! ### What is checked -/

/-- Is a number between the bounds? -/
def Within (o : SequenceOptions) (v : Int) : Prop := o.min ≤ v ∧ v ≤ o.max

instance (o : SequenceOptions) (v : Int) : Decidable (o.Within v) :=
  inferInstanceAs (Decidable (_ ∧ _))

/-- What is checked of the clauses of a statement. -/
structure Valid (o : SequenceOptions) : Prop where
  step : o.increment ≠ 0
  range : o.min < o.max
  start : o.Within o.start
  cache : 0 < o.cache

variable {o next : SequenceOptions} {clauses : List SequenceClause}

theorem validate_ok (given : validate o = .ok next) :
    next = o ∧ o.min < o.max ∧ o.Within o.start ∧ 0 < o.cache := by
  unfold validate at given
  split at given
  · cases given
  · split at given
    · cases given
    · split at given
      · cases given
      · split at given
        · cases given
        · rename_i range below above cache
          cases given
          exact ⟨rfl, by omega, ⟨by omega, by omega⟩, by omega⟩

theorem change_ok {creating : Bool} {restart : Option (Option Int)}
    (given : change o clauses creating = .ok (next, restart)) :
    ∃ r limit, clauses.foldlM Request.add { options := o } = .ok r ∧
      typeBound r.options.type = .ok limit ∧ next = r.settle creating limit ∧
      restart = r.restart ∧ next.Valid := by
  obtain ⟨r, folded, given⟩ := bind_ok given
  dsimp only at given
  split at given
  · cases given
  · rename_i step
    obtain ⟨limit, bounded, given⟩ := bind_ok given
    obtain ⟨settled, validated, given⟩ := bind_ok given
    cases given
    obtain ⟨rfl, range, start, cache⟩ := validate_ok validated
    have nonzero : r.options.increment ≠ 0 := by simpa using step
    exact ⟨r, limit, folded, bounded, rfl, rfl, ⟨nonzero, range, start, cache⟩⟩

theorem create_valid (given : create clauses = .ok next) : next.Valid := by
  obtain ⟨⟨settled, restart⟩, changed, given⟩ := bind_ok given
  cases given
  obtain ⟨-, -, -, -, -, -, valid⟩ := change_ok changed
  exact valid

theorem alter_valid {restart : Option (Option Int)}
    (given : o.alter clauses = .ok (next, restart)) : next.Valid := by
  obtain ⟨-, -, -, -, -, -, valid⟩ := change_ok given
  exact valid

theorem typeBound_eq_ok_iff (type : String) (limit : Int) :
    typeBound type = .ok limit ↔ typeBound? type = some limit := by
  unfold typeBound
  cases typeBound? type <;> simp

/-- The largest numbers of the types are those of 15, 31 and 63 bits. -/
theorem typeBound?_cases {type : String} {limit : Int} (bounded : typeBound? type = some limit) :
    limit = 32767 ∨ limit = 2147483647 ∨ limit = 9223372036854775807 := by
  obtain ⟨bits, listed, rfl⟩ := Option.map_eq_some_iff.mp bounded
  simp only [List.lookup_cons] at listed
  repeat' split at listed
  all_goals first | (cases listed; decide) | simp at listed

/-! ### Requests -/

namespace Request

/-- The request after more clauses: what the last one of each kind says, or else what was asked for
before. -/
def heeding (r : Request) (clauses : List SequenceClause) : Request where
  options :=
    { r.options with
      type := (last? type? clauses).getD r.options.type
      increment := (last? increment? clauses).getD r.options.increment
      cache := (last? cache? clauses).getD r.options.cache
      cycle := (last? cycle? clauses).getD r.options.cycle
      ownedBy := (last? ownedBy? clauses).getD r.options.ownedBy }
  min := (last? min? clauses).or r.min
  max := (last? max? clauses).or r.max
  start := (last? start? clauses).or r.start
  restart := (last? restart? clauses).or r.restart

/-- Every type that the clauses name is one that sequences may have. -/
def Known (clauses : List SequenceClause) : Prop :=
  ∀ type, .as type ∈ clauses → (typeBound? type).isSome

theorem known_cons_iff (c : SequenceClause) (rest : List SequenceClause) :
    Known (c :: rest) ↔ Known [c] ∧ Known rest := by
  simp [Known, or_imp, forall_and]

theorem heeding_nil (r : Request) : r.heeding [] = r := rfl

theorem heeding_cons (r : Request) (c : SequenceClause) (rest : List SequenceClause) :
    r.heeding (c :: rest) = (r.heeding [c]).heeding rest := by
  simp [heeding, Option.or_assoc, Option.getD_or]

theorem add_eq_ok_iff (r next : Request) (c : SequenceClause) :
    r.add c = .ok next ↔ Known [c] ∧ next = r.heeding [c] := by
  cases c with
  | as type =>
      have known : Known [.as type] ↔ (typeBound? type).isSome := by simp [Known]
      rw [known, add, typeBound]
      cases typeBound? type with
      | none => simp [bind, Except.bind]
      | some limit =>
          exact ⟨fun given => ⟨rfl, (Except.ok.inj given).symm⟩, fun given => given.2 ▸ rfl⟩
  | _ =>
      exact ⟨fun given => ⟨by simp [Known], (Except.ok.inj given).symm⟩, fun given => given.2 ▸ rfl⟩

theorem foldlM_add_eq_ok_iff (clauses : List SequenceClause) (r next : Request) :
    clauses.foldlM add r = .ok next ↔ Known clauses ∧ next = r.heeding clauses := by
  induction clauses generalizing r with
  | nil =>
      rw [heeding_nil]
      exact ⟨fun given => ⟨by simp [Known], (Except.ok.inj given).symm⟩, fun given => given.2 ▸ rfl⟩
  | cons c rest ih =>
      rw [List.foldlM_cons, known_cons_iff, heeding_cons, and_assoc, ← ih]
      constructor
      · intro given
        obtain ⟨first, added, given⟩ := bind_ok given
        obtain ⟨known, rfl⟩ := (add_eq_ok_iff r first c).mp added
        exact ⟨known, given⟩
      · rintro ⟨known, given⟩
        rw [(add_eq_ok_iff r (r.heeding [c]) c).mpr ⟨known, rfl⟩]
        exact given

end Request

/-! ### What a statement makes of the options -/

theorem validate_eq_ok_iff : validate o = .ok next ↔
    next = o ∧ o.min < o.max ∧ o.Within o.start ∧ 0 < o.cache := by
  constructor
  · exact validate_ok
  · rintro ⟨rfl, range, ⟨above, below⟩, cache⟩
    rw [validate, if_neg (by omega), if_neg (by omega), if_neg (by omega), if_neg (by omega)]

/-- What the clauses of a statement ask for, beside the options that were there. -/
def asked (o : SequenceOptions) (clauses : List SequenceClause) : Request :=
  Request.heeding { options := o } clauses

/-- A statement is accepted exactly if its types are known and the options that the last clauses of
each kind give are valid. -/
theorem change_eq_ok_iff {creating : Bool} {restart : Option (Option Int)} :
    change o clauses creating = .ok (next, restart) ↔
      Request.Known clauses ∧ restart = last? restart? clauses ∧ next.Valid ∧
        ∃ limit, typeBound? ((last? type? clauses).getD o.type) = some limit ∧
          next = (asked o clauses).settle creating limit := by
  have restarted : (asked o clauses).restart = last? restart? clauses := by
    simp [asked, Request.heeding]
  constructor
  · intro given
    obtain ⟨r, limit, folded, bounded, rfl, rfl, valid⟩ := change_ok given
    obtain ⟨known, rfl⟩ := (Request.foldlM_add_eq_ok_iff _ _ _).mp folded
    exact ⟨known, restarted, valid, limit, (typeBound_eq_ok_iff _ _).mp bounded, rfl⟩
  · rintro ⟨known, rfl, valid, limit, bounded, rfl⟩
    have folded : clauses.foldlM Request.add { options := o } = .ok (asked o clauses) :=
      (Request.foldlM_add_eq_ok_iff _ _ _).mpr ⟨known, rfl⟩
    have step : ((asked o clauses).options.increment == 0) = false := beq_false_of_ne valid.step
    have limited : typeBound (asked o clauses).options.type = .ok limit :=
      (typeBound_eq_ok_iff _ _).mpr bounded
    have validated := validate_eq_ok_iff.mpr ⟨rfl, valid.range, valid.start, valid.cache⟩
    simp [change, folded, step, limited, validated, restarted, bind, Except.bind, pure, Except.pure]

/-- Options as some statements leave them: the first creates the sequence, the others alter it. -/
inductive Accepted : SequenceOptions → Prop
  | created {clauses : List SequenceClause} {o : SequenceOptions} :
      create clauses = .ok o → Accepted o
  | altered {clauses : List SequenceClause} {o next : SequenceOptions}
      {restart : Option (Option Int)} :
      Accepted o → o.alter clauses = .ok (next, restart) → Accepted next

theorem create_eq_ok_iff : create clauses = .ok o ↔
    ∃ restart, change {} clauses true = .ok (o, restart) := by
  constructor
  · intro given
    obtain ⟨⟨settled, restart⟩, changed, given⟩ := bind_ok given
    cases given
    exact ⟨restart, changed⟩
  · rintro ⟨restart, changed⟩
    rw [create, changed]
    rfl

theorem change_type {creating : Bool} {restart : Option (Option Int)}
    (given : change o clauses creating = .ok (next, restart)) :
    ∃ limit, typeBound? next.type = some limit := by
  obtain ⟨-, -, -, limit, bounded, rfl⟩ := change_eq_ok_iff.mp given
  exact ⟨limit, bounded⟩

/-- Whatever statements made them, options that were accepted are valid and have a known type. -/
theorem Accepted.valid (accepted : Accepted o) :
    o.Valid ∧ ∃ limit, typeBound? o.type = some limit := by
  cases accepted with
  | created given =>
      obtain ⟨_, changed⟩ := create_eq_ok_iff.mp given
      exact ⟨create_valid given, change_type changed⟩
  | altered _ given => exact ⟨alter_valid given, change_type given⟩

/-! ### Bounds and the declared type -/

/-- The bounds are numbers of the declared type. -/
def FitsType (o : SequenceOptions) : Prop :=
  ∃ limit, typeBound? o.type = some limit ∧ -limit - 1 ≤ o.min ∧ o.max ≤ limit

theorem bound_eq (wanted : Option (Option Int)) (held? : Option Int) (default : Int) :
    Request.bound wanted held? default = (wanted.getD held?).getD default := by
  cases wanted with
  | none => rfl
  | some value => cases value <;> rfl

/-- Defaults are numbers of the type. -/
theorem default_fits {type : String} {limit : Int} (bounded : typeBound? type = some limit)
    (ascending : Bool) :
    -limit - 1 ≤ defaultMin ascending limit ∧ defaultMax ascending limit ≤ limit := by
  have large : 0 ≤ limit := by rcases typeBound?_cases bounded with rfl | rfl | rfl <;> decide
  unfold defaultMin defaultMax
  cases ascending <;> constructor <;> simp <;> omega

theorem getD_iff {p : Int → Prop} {default : Int} (fits : p default) (value? : Option Int) :
    p (value?.getD default) ↔ ∀ v ∈ value?, p v := by
  cases value? <;> simp [fits]

/-- The bounds fit the type exactly if those do that were asked for as numbers and those that were
kept: the ones that are left to the type always fit it. -/
theorem change_fitsType_iff {creating : Bool} {restart : Option (Option Int)} {limit : Int}
    (given : change o clauses creating = .ok (next, restart))
    (bounded : typeBound? next.type = some limit) :
    next.FitsType ↔
      (∀ v ∈ (last? min? clauses).getD (if creating then none else some o.min), -limit - 1 ≤ v) ∧
      (∀ v ∈ (last? max? clauses).getD (if creating then none else some o.max), v ≤ limit) := by
  obtain ⟨-, -, -, other, found, rfl⟩ := change_eq_ok_iff.mp given
  obtain rfl : other = limit := Option.some.inj (found.symm.trans bounded)
  have lower : (asked o clauses).min = last? min? clauses := by simp [asked, Request.heeding]
  have upper : (asked o clauses).max = last? max? clauses := by simp [asked, Request.heeding]
  obtain ⟨low, high⟩ := default_fits bounded (0 < (asked o clauses).options.increment)
  rw [← getD_iff (p := fun v => -other - 1 ≤ v) low, ← getD_iff (p := fun v => v ≤ other) high,
    ← lower, ← upper, ← bound_eq, ← bound_eq]
  constructor
  · rintro ⟨_, same, within⟩
    obtain rfl := Option.some.inj (same.symm.trans bounded)
    exact within
  · exact fun within => ⟨other, bounded, within⟩

/-- A bound that was asked for stays, whatever the declared type is. -/
theorem create_not_fitsType :
    ∃ o, create [.as "smallint", .maxValue (some 100000)] = .ok o ∧ o.Valid ∧ ¬o.FitsType := by
  refine ⟨{ type := "smallint", max := 100000 }, rfl,
    ⟨by decide, by decide, by decide, by decide⟩, ?_⟩
  rintro ⟨limit, bounded, _, above⟩
  have small : typeBound? "smallint" = some 32767 := rfl
  obtain rfl := Option.some.inj (small.symm.trans bounded)
  exact absurd above (by decide)

/-- The numbers that the clauses ask for as bounds are of a type. -/
def AskWithin (clauses : List SequenceClause) (type : String) : Prop :=
  ∀ limit, typeBound? type = some limit →
    (∀ v, .minValue (some v) ∈ clauses → -limit - 1 ≤ v) ∧
      ∀ v, .maxValue (some v) ∈ clauses → v ≤ limit

/-- Numbers of the first type are numbers of the second. -/
def Widens (first second : String) : Prop :=
  ∀ narrow wide, typeBound? first = some narrow → typeBound? second = some wide → narrow ≤ wide

theorem mem_of_last? {α : Type} {kind : SequenceClause → Option α} {a : α}
    (said : last? kind clauses = some a) : ∃ c ∈ clauses, kind c = some a :=
  List.mem_filterMap.mp (List.mem_of_getLast? said)

theorem mem_of_last?_min? {value : Option Int} (said : last? min? clauses = some value) :
    .minValue value ∈ clauses := by
  obtain ⟨c, listed, told⟩ := mem_of_last? said
  cases c <;> cases told
  exact listed

theorem mem_of_last?_max? {value : Option Int} (said : last? max? clauses = some value) :
    .maxValue value ∈ clauses := by
  obtain ⟨c, listed, told⟩ := mem_of_last? said
  cases c <;> cases told
  exact listed

/-- Bounds stay numbers of the type if no others are asked for and the type of an altered sequence
does not become narrower. -/
theorem change_fitsType {creating : Bool} {restart : Option (Option Int)}
    (given : change o clauses creating = .ok (next, restart))
    (within : AskWithin clauses next.type)
    (kept : creating = false → o.FitsType ∧ Widens o.type next.type) : next.FitsType := by
  obtain ⟨limit, bounded⟩ := change_type given
  obtain ⟨low, high⟩ := within limit bounded
  have held : creating = false → -limit - 1 ≤ o.min ∧ o.max ≤ limit := by
    intro altering
    obtain ⟨⟨narrow, there, above, below⟩, widens⟩ := kept altering
    have wider := widens narrow limit there bounded
    omega
  refine (change_fitsType_iff given bounded).mpr ⟨fun v set => ?_, fun v set => ?_⟩
  · cases said : last? min? clauses with
    | some value =>
        obtain rfl : value = some v := by simpa [said] using set
        exact low v (mem_of_last?_min? said)
    | none =>
        cases creating with
        | true => simp [said] at set
        | false =>
            obtain rfl : o.min = v := by simpa [said] using set
            exact (held rfl).1
  · cases said : last? max? clauses with
    | some value =>
        obtain rfl : value = some v := by simpa [said] using set
        exact high v (mem_of_last?_max? said)
    | none =>
        cases creating with
        | true => simp [said] at set
        | false =>
            obtain rfl : o.max = v := by simpa [said] using set
            exact (held rfl).2

/-- Options that were accepted from statements whose bounds are numbers of the type in force, and
that never take a narrower type. -/
inductive Typed : SequenceOptions → Prop
  | created {clauses : List SequenceClause} {o : SequenceOptions} :
      create clauses = .ok o → AskWithin clauses o.type → Typed o
  | altered {clauses : List SequenceClause} {o next : SequenceOptions}
      {restart : Option (Option Int)} :
      Typed o → o.alter clauses = .ok (next, restart) → AskWithin clauses next.type →
        Widens o.type next.type → Typed next

theorem Typed.accepted (typed : Typed o) : Accepted o := by
  induction typed with
  | created given _ => exact .created given
  | altered _ given _ _ ih => exact .altered ih given

/-- Such statements keep the bounds among the numbers of the declared type. -/
theorem Typed.fitsType (typed : Typed o) : o.FitsType := by
  induction typed with
  | created given within =>
      obtain ⟨_, changed⟩ := create_eq_ok_iff.mp given
      exact change_fitsType changed within fun altering => by cases altering
  | altered _ given within widens ih => exact change_fitsType given within fun _ => ⟨ih, widens⟩

end SequenceOptions

/-! ### Counters -/

/-- If the counter waits, it waits with a number within the bounds. -/
def SequenceState.Ready (o : SequenceOptions) (s : SequenceState) : Prop :=
  s.isCalled = false → o.Within s.lastValue

namespace SequenceDef

variable {d : SequenceDef} {s t : SequenceState} {v : Int}

theorem ready_fresh (valid : d.options.Valid) :
    (SequenceState.fresh d.options).Ready d.options :=
  fun _ => valid.start

theorem following_within (valid : d.options.Valid) {last : Int}
    (given : d.following last = .ok v) : d.options.Within v := by
  have range := valid.range
  unfold following at given
  dsimp only at given
  split at given
  · rename_i inside
    cases given
    simp only [Bool.and_eq_true, decide_eq_true_eq] at inside
    exact ⟨inside.1.2, inside.2⟩
  · split at given
    · cases given
      unfold SequenceOptions.Within
      split <;> omega
    · cases given

theorem next_ok (given : d.next s = .ok (v, t)) :
    t = ⟨v, true, some v⟩ ∧
      if s.isCalled then d.following s.lastValue = .ok v else v = s.lastValue := by
  unfold next at given
  dsimp only at given
  split at given
  · rename_i called
    obtain ⟨value, drawn, given⟩ := bind_ok given
    cases given
    exact ⟨rfl, by rw [if_pos called, drawn]⟩
  · rename_i waits
    cases given
    exact ⟨rfl, by rw [if_neg waits]⟩

/-- The number that is drawn is within the bounds exactly if the counter did not wait with another
one. -/
theorem next_within_iff (valid : d.options.Valid) (given : d.next s = .ok (v, t)) :
    d.options.Within v ↔ s.Ready d.options := by
  obtain ⟨-, drawn⟩ := next_ok given
  split at drawn
  · rename_i called
    exact iff_of_true (following_within valid drawn) fun waits => absurd (called.symm.trans waits)
      Bool.noConfusion
  · rename_i waits
    subst drawn
    exact ⟨fun within _ => within, fun ready => ready (by simpa using waits)⟩

/-- What a use of the sequence makes of its counter: it draws a number, moves the counter, or leaves
it as it is. -/
inductive Moves (d : SequenceDef) (s : SequenceState) : SequenceState → Prop
  | drawn {v : Int} {t : SequenceState} : d.next s = .ok (v, t) → Moves d s t
  | set {v : Int} {isCalled : Bool} {t : SequenceState} : d.set s v isCalled = .ok t → Moves d s t
  | same : Moves d s s

/-- No use of a sequence lets its counter wait with a number out of the bounds. -/
theorem Moves.ready (moves : d.Moves s t) (ready : s.Ready d.options) : t.Ready d.options := by
  cases moves with
  | drawn given =>
      obtain ⟨rfl, -⟩ := next_ok given
      exact fun waits => absurd waits Bool.noConfusion
  | set given =>
      unfold SequenceDef.set at given
      dsimp only at given
      split at given
      · cases given
      · rename_i inside
        cases given
        intro _
        simpa [SequenceOptions.Within] using inside
  | same => exact ready

theorem restart_ready_iff (valid : d.options.Valid) (value : Option Int) :
    (d.restart s value).Ready d.options ↔ ∀ v ∈ value, d.options.Within v := by
  cases value with
  | none => exact iff_of_true (fun _ => valid.start) (fun _ member => by cases member)
  | some v => exact ⟨fun ready _ member => Option.some.inj member ▸ ready rfl, fun within _ => within v rfl⟩

end SequenceDef

end SqlEngine
