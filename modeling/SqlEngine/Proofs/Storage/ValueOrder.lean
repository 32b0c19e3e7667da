import SqlEngine.Proofs.Storage.Index

/-!
Where the order of values is total.

Documents are not ordered transitively, and integers and floats that are compared with each other
are not either. Values that hold no document and not both kinds of numbers are totally ordered,
however they nest.

Documents may be equal and differ, and so may an integer and a float. Values that hold neither floats
nor documents are linearly ordered: their order is total and tells any two of them apart. So are the
rows of such values, however long they are.
-/

namespace SqlEngine

/-! ### Values without parts -/

theorem compareLists_eq_compareLex {α : Type} (cmp : α → α → Ordering) :
    compareLists cmp = List.compareLex cmp := by
  funext a
  induction a with
  | nil =>
      funext b
      cases b <;> rfl
  | cons x xs ih =>
      funext b
      cases b with
      | nil => rfl
      | cons y ys => rw [compareLists, List.compareLex_cons_cons, ih]

instance {α : Type} {cmp : α → α → Ordering} [Std.TransCmp cmp] :
    Std.TransCmp (compareLists cmp) := by
  rw [compareLists_eq_compareLex]
  infer_instance

instance : Std.TransCmp Double.totalCompare :=
  inferInstanceAs (Std.TransCmp (compareOn Double.rank))

instance : Std.TransCmp TimeOfDay.compare :=
  inferInstanceAs (Std.TransCmp (compareLex (compareOn TimeOfDay.second)
    (compareOn TimeOfDay.nanosecond)))

/-- Comparing what a function makes of values. -/
theorem transCmp_on {α β : Type} (f : α → β) (cmp : β → β → Ordering) [Std.TransCmp cmp] :
    Std.TransCmp fun a b => cmp (f a) (f b) where
  eq_swap := Std.OrientedCmp.eq_swap
  isLE_trans := Std.TransCmp.isLE_trans

instance : Std.TransCmp Timestamp.compare :=
  have := transCmp_on Timestamp.time TimeOfDay.compare
  inferInstanceAs (Std.TransCmp (compareLex (compareOn fun t : Timestamp => t.date.day)
    (fun a b => a.time.compare b.time)))

instance : Std.TransCmp Point.order :=
  have := transCmp_on Point.x Double.totalCompare
  have := transCmp_on Point.y Double.totalCompare
  inferInstanceAs (Std.TransCmp (compareLex (fun a b : Point => a.x.totalCompare b.x)
    (fun a b => a.y.totalCompare b.y)))

instance : Std.TransCmp Segment.order :=
  have := transCmp_on Segment.a Point.order
  have := transCmp_on Segment.b Point.order
  inferInstanceAs (Std.TransCmp (compareLex (fun a b : Segment => a.a.order b.a)
    (fun a b => a.b.order b.b)))

instance : Std.TransCmp Rectangle.order :=
  have := transCmp_on Rectangle.high Point.order
  have := transCmp_on Rectangle.low Point.order
  inferInstanceAs (Std.TransCmp (compareLex (fun a b : Rectangle => a.high.order b.high)
    (fun a b => a.low.order b.low)))

instance : Std.TransCmp Circle.order :=
  have := transCmp_on Circle.center Point.order
  have := transCmp_on Circle.radius Double.totalCompare
  inferInstanceAs (Std.TransCmp (compareLex (fun a b : Circle => a.center.order b.center)
    (fun a b => a.radius.totalCompare b.radius)))

instance : Std.OrientedCmp Handle.order where
  eq_swap {a b} := by
    cases a with
    | id a =>
        cases b with
        | id b => exact Std.OrientedOrd.eq_swap
        | name b => rfl
    | name a =>
        cases b with
        | id b => rfl
        | name b => exact Std.OrientedOrd.eq_swap

instance : Std.TransCmp Handle.order where
  isLE_trans {a b c} first second := by
    cases a with
    | id a =>
        cases c with
        | id c =>
            cases b with
            | id b => exact Std.TransOrd.isLE_trans first second
            | name b => exact absurd second (by simp [Handle.order])
        | name c => rfl
    | name a =>
        cases b with
        | id b => exact absurd first (by simp [Handle.order])
        | name b =>
            cases c with
            | id c => exact absurd second (by simp [Handle.order])
            | name c => exact Std.TransOrd.isLE_trans first second

namespace Value

/-! ### Kinds of numbers -/

mutual

/-- Does a value, with all its items, hold no document and numbers of at most one kind? -/
def fits (real : Bool) : Value → Bool
  | int _ => !real
  | float _ => real
  | json _ => false
  | array items => fitsAll real items
  | _ => true

def fitsAll (real : Bool) : List Value → Bool
  | [] => true
  | v :: rest => fits real v && fitsAll real rest

end

theorem fitsAll_iff (real : Bool) (items : List Value) :
    fitsAll real items ↔ ∀ v ∈ items, v.fits real := by
  induction items with
  | nil => simp [fitsAll]
  | cons v rest ih => simp [fitsAll, ih]

/-! ### The order -/

/-- Values of different kinds are ordered by their kinds. -/
theorem order_of_rank_ne {a b : Value} (different : a.rank ≠ b.rank) :
    order a b = compare a.rank b.rank := by
  cases a <;> cases b <;> first | rfl | exact absurd rfl different

theorem rank_eq_of_order_eq {a b : Value} (equal : order a b = .eq) : a.rank = b.rank := by
  by_contra different
  rw [order_of_rank_ne different, Nat.compare_eq_eq] at equal
  exact different equal

/-- The values up to a size that hold numbers of one kind. -/
def Bounded (real : Bool) (size : Nat) (v : Value) : Prop := v.fits real ∧ sizeOf v < size

theorem totalOn_orderItems {real : Bool} {size : Nat} (total : TotalOn order (Bounded real size)) :
    TotalOn orderItems fun items => fitsAll real items ∧ sizeOf items < size := by
  refine TotalOn.mono (totalOn_orderRows fun _ => total) ?_
  intro items ⟨fit, small⟩ position v found
  have member := List.mem_of_getElem? found
  have smaller := List.sizeOf_lt_of_mem member
  exact ⟨(fitsAll_iff real items).mp fit v member, by omega⟩

/-- Values of one kind compare what they hold. -/
theorem order_swap_of_rank_eq {real : Bool} {a b : Value} (same : a.rank = b.rank)
    (fitA : a.fits real) (fitB : b.fits real)
    (items : ∀ xs ys, a = array xs → b = array ys → orderItems ys xs = (orderItems xs ys).swap) :
    order b a = (order a b).swap := by
  cases a <;> cases b <;>
    first
      | exact absurd same (Nat.ne_of_beq_eq_false rfl)
      | exact items _ _ rfl rfl
      | (simp only [order]; exact Std.OrientedCmp.eq_swap)
      | rfl
      | simp_all [fits]

theorem order_trans_of_rank_eq {real : Bool} {a b c : Value} (same : a.rank = b.rank)
    (other : b.rank = c.rank) (fitA : a.fits real) (fitB : b.fits real) (fitC : c.fits real)
    (items : ∀ xs ys zs, a = array xs → b = array ys → c = array zs →
      (orderItems xs ys).isLE → (orderItems ys zs).isLE → (orderItems xs zs).isLE)
    (first : (order a b).isLE) (second : (order b c).isLE) : (order a c).isLE := by
  cases a <;> cases b <;> try exact absurd same (Nat.ne_of_beq_eq_false rfl)
  all_goals cases c <;> try exact absurd other (Nat.ne_of_beq_eq_false rfl)
  all_goals
    first
      | exact items _ _ _ rfl rfl rfl first second
      | rfl
      | (simp only [order] at first second ⊢; exact Std.TransCmp.isLE_trans first second)
      | simp_all [fits]

theorem totalOn_bounded (real : Bool) (size : Nat) : TotalOn order (Bounded real size) := by
  induction size with
  | zero => exact ⟨fun _ _ none => absurd none.2 (by omega), fun _ _ _ none => absurd none.2 (by omega)⟩
  | succ size ih =>
      have total := totalOn_orderItems ih
      have inside : ∀ items : List Value, (array items).fits real → sizeOf (array items) < size + 1 →
          fitsAll real items ∧ sizeOf items < size := by
        intro items fit small
        rw [array.sizeOf_spec] at small
        exact ⟨fit, by omega⟩
      refine .of_rank rank (fun a b _ _ different => order_of_rank_ne different) ?_ ?_
      · rintro a b ⟨fitA, smallA⟩ ⟨fitB, smallB⟩ same
        refine order_swap_of_rank_eq same fitA fitB ?_
        rintro xs ys rfl rfl
        exact total.swap xs ys (inside xs fitA smallA) (inside ys fitB smallB)
      · rintro a b c ⟨fitA, smallA⟩ ⟨fitB, smallB⟩ ⟨fitC, smallC⟩ same other first second
        refine order_trans_of_rank_eq same other fitA fitB fitC ?_ first second
        rintro xs ys zs rfl rfl rfl
        exact total.trans xs ys zs (inside xs fitA smallA) (inside ys fitB smallB)
          (inside zs fitC smallC)

/-- Values without documents and with numbers of one kind only are totally ordered. -/
theorem totalOn_fits (real : Bool) : TotalOn order fun v => v.fits real := by
  constructor
  · intro a b fitA fitB
    exact (totalOn_bounded real (sizeOf a + sizeOf b + 1)).swap a b ⟨fitA, by omega⟩
      ⟨fitB, by omega⟩
  · intro a b c fitA fitB fitC
    exact (totalOn_bounded real (sizeOf a + sizeOf b + sizeOf c + 1)).trans a b c
      ⟨fitA, by omega⟩ ⟨fitB, by omega⟩ ⟨fitC, by omega⟩

end Value

/-! ### Orders that tell keys apart -/

/-- The comparison is a total order of the keys that `held` describes, and equal keys are the
same. -/
structure LinearOn {κ : Type} (cmp : κ → κ → Ordering) (held : κ → Prop) : Prop
    extends TotalOn cmp held where
  self : ∀ a, held a → cmp a a = .eq
  eq : ∀ a b, held a → held b → cmp a b = .eq → a = b

/-! ### Equal values without parts -/

instance {α : Type} {cmp : α → α → Ordering} [Std.LawfulEqCmp cmp] :
    Std.LawfulEqCmp (compareLists cmp) := by
  rw [compareLists_eq_compareLex]
  infer_instance

instance : Std.LawfulEqCmp TimeOfDay.compare where
  eq_of_compare {a b} equal := by
    obtain ⟨seconds, nanoseconds⟩ := Ordering.then_eq_eq.mp equal
    cases a
    cases b
    congr
    · exact Std.LawfulEqOrd.eq_of_compare seconds
    · exact Std.LawfulEqOrd.eq_of_compare nanoseconds

instance : Std.LawfulEqCmp Timestamp.compare where
  eq_of_compare {a b} equal := by
    obtain ⟨days, times⟩ := Ordering.then_eq_eq.mp equal
    obtain ⟨⟨_⟩, _⟩ := a
    obtain ⟨⟨_⟩, _⟩ := b
    congr
    · exact Std.LawfulEqOrd.eq_of_compare days
    · exact Std.LawfulEqCmp.eq_of_compare times

instance : Std.LawfulEqCmp Handle.order where
  eq_of_compare {a b} equal := by
    cases a with
    | id a =>
        cases b with
        | id b => exact congrArg Handle.id (Std.LawfulEqOrd.eq_of_compare equal)
        | name b => cases equal
    | name a =>
        cases b with
        | id b => cases equal
        | name b => exact congrArg Handle.name (Std.LawfulEqOrd.eq_of_compare equal)

theorem Date.day_injective : Function.Injective Date.day := by
  rintro ⟨a⟩ ⟨b⟩ same
  exact congrArg Date.mk same

theorem Uuid.toNat_injective : Function.Injective fun u : Uuid => u.bits.toNat := by
  rintro ⟨a⟩ ⟨b⟩ same
  exact congrArg Uuid.mk (BitVec.eq_of_toNat_eq same)

namespace Value

/-! ### Values without floats and documents -/

mutual

/-- Does a value, with all its items, hold neither floats nor documents? -/
def isDiscrete : Value → Bool
  | float _ | json _ | point _ | segment _ | rectangle _ | circle _ => false
  | array items => areDiscrete items
  | _ => true

def areDiscrete : List Value → Bool
  | [] => true
  | v :: rest => isDiscrete v && areDiscrete rest

end

theorem areDiscrete_iff (items : List Value) : areDiscrete items ↔ ∀ v ∈ items, v.isDiscrete := by
  induction items with
  | nil => simp [areDiscrete]
  | cons v rest ih => simp [areDiscrete, ih]

theorem fits_of_isDiscrete {v : Value} (discrete : v.isDiscrete) : v.fits false := by
  cases v
  case array items =>
    rw [fits, fitsAll_iff]
    intro v member
    exact fits_of_isDiscrete ((areDiscrete_iff items).mp discrete v member)
  all_goals first | rfl | cases discrete
termination_by sizeOf v

/-! ### Equality -/

theorem eq_of_orderItems : ∀ {xs ys : List Value},
    (∀ x ∈ xs, ∀ y ∈ ys, order x y = .eq → x = y) → orderItems xs ys = .eq → xs = ys := by
  intro xs
  induction xs with
  | nil =>
      intro ys _ equal
      cases ys with
      | nil => rfl
      | cons y ys => cases equal
  | cons x xs ih =>
      intro ys each equal
      cases ys with
      | nil => cases equal
      | cons y ys =>
          obtain ⟨first, later⟩ := Ordering.then_eq_eq.mp equal
          obtain rfl := each x (by simp) y (by simp) first
          rw [ih (fun u inXs v inYs => each u (by simp [inXs]) v (by simp [inYs])) later]

theorem eq_of_order {a b : Value} (discreteA : a.isDiscrete) (discreteB : b.isDiscrete)
    (equal : order a b = .eq) : a = b := by
  have same := rank_eq_of_order_eq equal
  cases a <;> cases b <;> try exact absurd same (Nat.ne_of_beq_eq_false rfl)
  case array.array xs ys =>
    refine congrArg array (eq_of_orderItems (fun x inXs y inYs first => ?_) equal)
    exact eq_of_order ((areDiscrete_iff xs).mp discreteA x inXs)
      ((areDiscrete_iff ys).mp discreteB y inYs) first
  case null.null => rfl
  case date.date =>
    exact congrArg date (Date.day_injective (Std.LawfulEqOrd.eq_of_compare equal))
  case uuid.uuid =>
    exact congrArg uuid (Uuid.toNat_injective (Std.LawfulEqOrd.eq_of_compare equal))
  all_goals
    first
      | exact absurd discreteA Bool.false_ne_true
      | exact absurd discreteB Bool.false_ne_true
      | (simp only [order] at equal; exact congrArg _ (Std.LawfulEqCmp.eq_of_compare equal))
termination_by sizeOf a

/-! ### The order -/

/-- Values without floats and documents are linearly ordered, however deep their arrays nest, and so
are rows of them, whatever their lengths. -/
theorem linearOn_order :
    LinearOn order (fun v => v.isDiscrete) ∧
      LinearOn orderRows fun row => ∀ v ∈ row, v.isDiscrete := by
  have values : TotalOn order fun v => v.isDiscrete :=
    (totalOn_fits false).mono fun _ => fits_of_isDiscrete
  have rows : TotalOn orderRows fun row => ∀ v ∈ row, v.isDiscrete :=
    (totalOn_orderRows fun _ => values).mono fun _ each _ v found =>
      each v (List.mem_of_getElem? found)
  refine ⟨⟨values, fun _ => values.refl, fun _ _ => eq_of_order⟩,
    ⟨rows, fun _ => rows.refl, fun a b eachA eachB equal => ?_⟩⟩
  exact eq_of_orderItems (fun v inA u inB => eq_of_order (eachA v inA) (eachB u inB)) equal

end Value

end SqlEngine
