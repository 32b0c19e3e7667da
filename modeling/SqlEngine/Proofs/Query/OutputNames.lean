import Mathlib.Data.List.Nodup
import Mathlib.Data.List.Perm.Subperm
import SqlEngine.Proofs.Number.Reading
import SqlEngine.Proofs.Run
import SqlEngine.Query.Select

/-!
Names of output columns.

Names are given out one after the other. A suggested name is kept where it is met first; any other
place gets its suggestion with a number at the end, and the number is raised until the name is not
taken. The raising comes to an end, since numbers make different names and only finitely many names
are taken. As generated names are never suggested ones, they do not come in the way of a name that is
suggested later, so all names are different, and each suggested name is kept once.
-/

namespace SqlEngine

namespace OutputNames

variable {base name : String} {taken reserved given names : List String} {start counter last n : Nat}
  {suggestion : Option String} {suggestions rest front : List (Option String)}

/-! ### Numbers -/

/-- Different numbers make different names, since they are read back from their digits. -/
theorem number_inj {m n : Nat} (same : base ++ toString m = base ++ toString n) : m = n := by
  have digits : Nat.toDigits 10 m = Nat.toDigits 10 n := by
    simpa using congrArg String.toList ((String.append_right_inj base).mp same)
  have read := Numeral.natural?_toDigits m
  rw [digits, Numeral.natural?_toDigits] at read
  exact (Option.some.inj read).symm

/-- Numbers are tried from the first one on, and the last one is the first whose name is free. -/
inductive Tries (base : String) (taken : List String) : Nat → Nat → Prop
  | free {n : Nat} : base ++ toString n ∉ taken → Tries base taken n n
  | next {n last : Nat} : base ++ toString n ∈ taken → Tries base taken (n + 1) last →
      Tries base taken n last

theorem Tries.fresh (tries : Tries base taken start last) : base ++ toString last ∉ taken := by
  induction tries with
  | free fresh => exact fresh
  | next _ _ ih => exact ih

theorem Tries.unique {other : Nat} (tries : Tries base taken start last)
    (again : Tries base taken start other) : last = other := by
  induction tries with
  | free fresh =>
      cases again with
      | free => rfl
      | next found => exact absurd found fresh
  | next found _ ih =>
      cases again with
      | free fresh => exact absurd found fresh
      | next _ again => exact ih again

/-- Numbers that make names that are taken are passed over. -/
theorem tries_add {k : Nat} (before : ∀ i < k, base ++ toString (start + i) ∈ taken)
    (fresh : base ++ toString (start + k) ∉ taken) : Tries base taken start (start + k) := by
  induction k generalizing start with
  | zero => exact .free fresh
  | succ k ih =>
      have shift (i : Nat) : start + (i + 1) = start + 1 + i := by omega
      rw [shift k] at fresh ⊢
      refine .next (before 0 (Nat.zero_lt_succ k)) (ih (fun i small => ?_) fresh)
      rw [← shift i]
      exact before (i + 1) (Nat.succ_lt_succ small)

/-- More numbers than there are names that are taken make a free name. -/
theorem exists_fresh (base : String) (taken : List String) (start : Nat) :
    ∃ k ≤ taken.length, base ++ toString (start + k) ∉ taken := by
  by_contra none
  push Not at none
  let made := (List.range (taken.length + 1)).map fun k => base ++ toString (start + k)
  have inside : made ⊆ taken := by
    intro name member
    obtain ⟨k, small, rfl⟩ := List.mem_map.mp member
    exact none k (Nat.le_of_lt_succ (List.mem_range.mp small))
  have apart : made.Nodup := by
    refine List.Nodup.map (fun k l same => ?_) List.nodup_range
    have numbers : start + k = start + l := number_inj same
    omega
  have size := (List.subperm_of_subset apart inside).length_le
  rw [List.length_map, List.length_range] at size
  omega

/-- The search among more numbers than there are names that are taken does not end without one. -/
theorem freshNumber_tries (base : String) (taken : List String) (start : Nat) :
    Tries base taken start (freshNumber base taken start) ∧
      freshNumber base taken start ≤ start + taken.length := by
  have found : ∃ k, (List.range (taken.length + 1)).find?
      ((fun n => !taken.contains (base ++ toString n)) ∘ (start + ·)) = some k := by
    rw [← Option.isSome_iff_exists, List.find?_isSome]
    obtain ⟨k, small, fresh⟩ := exists_fresh base taken start
    exact ⟨k, List.mem_range.mpr (Nat.lt_succ_of_le small), by simpa using fresh⟩
  obtain ⟨k, found⟩ := found
  have number : freshNumber base taken start = start + k := by
    rw [freshNumber, List.find?_map, found]
    rfl
  obtain ⟨fresh, small, before⟩ := List.find?_range_eq_some.mp found
  rw [number]
  refine ⟨tries_add (fun i less => by simpa using before i less) (by simpa using fresh), ?_⟩
  exact Nat.add_le_add_left (Nat.le_of_lt_succ (List.mem_range.mp small)) start

theorem Tries.le (tries : Tries base taken start last) : last ≤ start + taken.length := by
  obtain ⟨found, bound⟩ := freshNumber_tries base taken start
  rwa [tries.unique found]

/-- Where each name so far left the counter at most `2 * N` further on, the next one does so, too. -/
theorem Tries.lt {N : Nat} (tries : Tries base (reserved ++ given) counter n)
    (size : reserved.length ≤ N) (room : given.length < N) (low : counter ≤ 2 * N * given.length) :
    n < 2 * N * (given.length + 1) := by
  have least := tries.le
  rw [List.length_append] at least
  rw [Nat.mul_succ]
  omega

/-! ### Names -/

/-- Names are given out for the suggestions, one after the other. The suggested names are reserved,
some names were given out before, and the counter is the first number to try. -/
inductive Assigns (reserved : List String) :
    List String → Nat → List (Option String) → List String → Prop
  | nil {given : List String} {counter : Nat} : Assigns reserved given counter [] []
  | kept {given : List String} {counter : Nat} {name : String} {rest : List (Option String)}
      {names : List String} : name ∉ given → Assigns reserved (name :: given) counter rest names →
      Assigns reserved given counter (some name :: rest) (name :: names)
  | numbered {given : List String} {counter n : Nat} {suggestion : Option String}
      {rest : List (Option String)} {names : List String} : (∀ name ∈ suggestion, name ∈ given) →
      Tries (suggestion.getD "column") (reserved ++ given) counter n →
      Assigns reserved ((suggestion.getD "column" ++ toString n) :: given) (n + 1) rest names →
      Assigns reserved given counter (suggestion :: rest)
        ((suggestion.getD "column" ++ toString n) :: names)

theorem assign_assigns (reserved given : List String) (counter : Nat)
    (suggestions : List (Option String)) :
    Assigns reserved given counter suggestions (assign reserved given counter suggestions) := by
  induction suggestions generalizing given counter with
  | nil => exact .nil
  | cons suggestion rest ih =>
      cases suggestion with
      | none => exact .numbered nofun (freshNumber_tries _ _ _).1 (ih _ _)
      | some name =>
          rw [assign]
          by_cases again : name ∈ given
          · rw [if_pos (List.contains_iff_mem.mpr again)]
            refine .numbered (fun other same => ?_) (freshNumber_tries _ _ _).1 (ih _ _)
            cases same
            exact again
          · rw [if_neg (mt List.contains_iff_mem.mp again)]
            exact .kept again (ih _ _)

theorem Assigns.unique {others : List String}
    (assigns : Assigns reserved given counter suggestions names)
    (again : Assigns reserved given counter suggestions others) : names = others := by
  induction assigns generalizing others with
  | nil =>
      cases again
      rfl
  | kept new _ ih =>
      cases again with
      | kept _ again => rw [ih again]
      | numbered old => exact absurd (old _ rfl) new
  | numbered old tries _ ih =>
      cases again with
      | kept new => exact absurd (old _ rfl) new
      | numbered _ tries' again =>
          cases tries.unique tries'
          rw [ih again]

theorem Assigns.length (assigns : Assigns reserved given counter suggestions names) :
    names.length = suggestions.length := by
  induction assigns with
  | nil => rfl
  | kept _ _ ih => rw [List.length_cons, List.length_cons, ih]
  | numbered _ _ _ ih => rw [List.length_cons, List.length_cons, ih]

/-- No name is given out twice. -/
theorem Assigns.apart (assigns : Assigns reserved given counter suggestions names) :
    names.Nodup ∧ ∀ name ∈ names, name ∉ given := by
  have step : ∀ {given names : List String} {name : String}, name ∉ given →
      (names.Nodup ∧ ∀ other ∈ names, other ∉ name :: given) →
      (name :: names).Nodup ∧ ∀ other ∈ name :: names, other ∉ given := by
    intro given names name new ⟨apart, later⟩
    refine ⟨List.nodup_cons.mpr ⟨fun member => later name member List.mem_cons_self, apart⟩, ?_⟩
    refine List.forall_mem_cons.mpr ⟨new, fun other member old => ?_⟩
    exact later other member (List.mem_cons_of_mem name old)
  induction assigns with
  | nil => exact ⟨List.nodup_nil, nofun⟩
  | kept new _ ih => exact step new ih
  | numbered _ tries _ ih =>
      exact step (fun old => tries.fresh (List.mem_append_right _ old)) ih

/-- What becomes of a suggestion: it is kept if its name was not seen before, and else it gets a
number at the end that makes none of the reserved names. -/
inductive Placed (reserved : List String) (seen : String → Prop) (bound : Nat) :
    Option String → String → Prop
  | kept {name : String} : ¬seen name → Placed reserved seen bound (some name) name
  | numbered {suggestion : Option String} {n : Nat} : (∀ name ∈ suggestion, seen name) → n < bound →
      suggestion.getD "column" ++ toString n ∉ reserved →
      Placed reserved seen bound suggestion (suggestion.getD "column" ++ toString n)

/-- One name further on, the suggestion before it was seen as well. -/
theorem Placed.further {bound : Nat} {first : Option String} {made : String}
    (placed : Placed reserved (fun x => x ∈ made :: given ∨ some x ∈ front) bound suggestion name)
    (known : ∀ x ∈ suggestion, x ∈ made :: given ↔ x ∈ given ∨ some x = first) :
    Placed reserved (fun x => x ∈ given ∨ some x ∈ first :: front) bound suggestion name := by
  have same : ∀ x ∈ suggestion,
      x ∈ made :: given ∨ some x ∈ front ↔ x ∈ given ∨ some x ∈ first :: front := by
    intro x member
    rw [known x member, List.mem_cons, or_assoc]
  cases placed with
  | kept new => exact .kept (mt (same _ rfl).mpr new)
  | numbered old small fresh =>
      exact .numbered (fun x member => (same x member).mp (old x member)) small fresh

/-- What becomes of each suggestion, where the names that were given out before count as seen. -/
theorem Assigns.placed {N : Nat} (assigns : Assigns reserved given counter suggestions names)
    (all : ∀ name, some name ∈ suggestions → name ∈ reserved) (size : reserved.length ≤ N)
    (room : given.length + suggestions.length ≤ N) (low : counter ≤ 2 * N * given.length)
    (shape : suggestions = front ++ suggestion :: rest) :
    ∃ name, names[front.length]? = some name ∧
      Placed reserved (fun x => x ∈ given ∨ some x ∈ front) (2 * N * N) suggestion name := by
  induction assigns generalizing front with
  | nil => simp at shape
  | @kept given counter name later names new _ ih =>
      rw [List.length_cons, ← Nat.add_assoc, Nat.add_right_comm] at room
      have low' : counter ≤ 2 * N * (given.length + 1) :=
        Nat.le_trans low (Nat.mul_le_mul_left _ (Nat.le_succ _))
      cases front with
      | nil =>
          cases shape
          exact ⟨name, rfl, .kept (by simpa using new)⟩
      | cons first front =>
          obtain ⟨rfl, rfl⟩ := List.cons.inj shape
          obtain ⟨found, place, placed⟩ :=
            ih (fun x member => all x (List.mem_cons_of_mem _ member)) room low' rfl
          refine ⟨found, place, placed.further fun x _ => ?_⟩
          rw [List.mem_cons, Option.some.injEq, or_comm]
  | @numbered given counter n suggested later names old tries _ ih =>
      rw [List.length_cons, ← Nat.add_assoc, Nat.add_right_comm] at room
      have small : n < 2 * N * (given.length + 1) := tries.lt size (by omega) low
      have fresh : suggested.getD "column" ++ toString n ∉ reserved :=
        fun member => tries.fresh (List.mem_append_left given member)
      cases front with
      | nil =>
          cases shape
          have most : 2 * N * (given.length + 1) ≤ 2 * N * N := Nat.mul_le_mul_left _ (by omega)
          exact ⟨_, rfl, .numbered (fun x member => .inl (old x member)) (by omega) fresh⟩
      | cons first front =>
          obtain ⟨rfl, rfl⟩ := List.cons.inj shape
          obtain ⟨found, place, placed⟩ :=
            ih (fun x member => all x (List.mem_cons_of_mem _ member)) room small rfl
          refine ⟨found, place, placed.further fun x member => ?_⟩
          -- a generated name is none that is suggested, and the suggestion for it was seen before
          have other : x ≠ suggested.getD "column" ++ toString n := by
            rintro rfl
            refine fresh (all _ ?_)
            rw [← Option.mem_def.mp member]
            exact List.mem_cons_of_mem _ (List.mem_append_right _ List.mem_cons_self)
          have before : some x = suggested → x ∈ given := fun same => old x same.symm
          rw [List.mem_cons, or_iff_right other, or_iff_left_of_imp before]

theorem assigns_ofSuggestions (suggestions : List (Option String)) :
    Assigns (suggestions.filterMap id) [] 0 suggestions (ofSuggestions suggestions) :=
  assign_assigns (suggestions.filterMap id) [] 0 suggestions

/-- Giving out names comes to an end, and with one list of names only: a name for each suggestion, no
two of them the same. A suggested name is kept where it is not among the suggestions before, and any
other place gets its suggestion, or `column`, with a number at the end, which is none of the suggested
names. A number of 32 bits is enough for 32767 suggestions. -/
theorem ofSuggestions_distinct (suggestions : List (Option String)) :
    (∀ names, Assigns (suggestions.filterMap id) [] 0 suggestions names ↔
      names = ofSuggestions suggestions) ∧
    (ofSuggestions suggestions).length = suggestions.length ∧ (ofSuggestions suggestions).Nodup ∧
    ∀ front suggestion rest, suggestions = front ++ suggestion :: rest →
      ∃ name, (ofSuggestions suggestions)[front.length]? = some name ∧
        Placed (suggestions.filterMap id) (some · ∈ front)
          (2 * suggestions.length * suggestions.length) suggestion name := by
  have assigns := assigns_ofSuggestions suggestions
  refine ⟨fun names => ⟨fun again => again.unique assigns, ?_⟩, assigns.length, assigns.apart.1, ?_⟩
  · rintro rfl
    exact assigns
  · intro front suggestion rest shape
    have all : ∀ name, some name ∈ suggestions → name ∈ suggestions.filterMap id :=
      fun name member => List.mem_filterMap.mpr ⟨some name, member, rfl⟩
    have placed := assigns.placed all (List.length_filterMap_le id suggestions)
      (by simp) (Nat.zero_le _) shape
    simpa using placed

/-- Suggestions that end in numbers themselves, some of them later than what is repeated. -/
def exampleSuggestions : List (Option String) :=
  [some "a", some "a", some "a1", none, some "a0", some "a1"]

/-- The numbers 0 and 1 are no good for the second `a`, and `a1` is repeated in the end. -/
theorem exampleSuggestions_named :
    ofSuggestions exampleSuggestions = ["a", "a2", "a1", "column3", "a0", "a14"] ∧
    exampleSuggestions = [some "a", some "a", some "a1", none, some "a0"] ++ [some "a1"] ∧
    ∃ name, (ofSuggestions exampleSuggestions)[5]? = some name ∧
      Placed ["a", "a", "a1", "a0", "a1"]
        (some · ∈ [some "a", some "a", some "a1", none, some "a0"]) 72 (some "a1") name :=
  ⟨by decide, rfl, (ofSuggestions_distinct exampleSuggestions).2.2.2
    [some "a", some "a", some "a1", none, some "a0"] (some "a1") [] rfl⟩

end OutputNames

/-- The outputs of a select list have different names. -/
theorem Select.outputs_apart {s : Scope} {items : List PendingItem} {outputs : Outputs}
    {calls later : List CollectedCall}
    (built : (Select.outputs s items).run calls = .ok (outputs, later)) :
    (outputs.map (·.1)).Nodup := by
  rw [Select.outputs, StateT.run_bind] at built
  obtain ⟨⟨lists, calls⟩, -, built⟩ := Run.bind_ok built
  cases built
  have assigns := OutputNames.assigns_ofSuggestions (lists.flatten.map (·.1))
  have width : (OutputNames.ofSuggestions (lists.flatten.map (·.1))).length =
      (lists.flatten.map (·.2)).length := by
    rw [assigns.length, List.length_map, List.length_map]
  rw [List.map_fst_zip (Nat.le_of_eq width)]
  exact assigns.apart.1

end SqlEngine
