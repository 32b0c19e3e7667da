import Mathlib.Data.List.Sort
import Mathlib.Data.String.Basic
import SqlEngine.Json.Order
import SqlEngine.Proofs.Number.Double
import SqlEngine.Proofs.Storage.Sorted

/-!
The order of documents.

Two documents compare the other way round when they change sides. The order is not transitive,
though: scalars that count as false are equal whatever their kinds, all others are ordered by their
kinds, and numbers are equal within a tolerance. It is transitive wherever it is on scalars, so among
documents whose scalars are NULL or count as true, their numbers further apart than the tolerance.
-/

namespace SqlEngine

/-! ### Members of objects

Objects are compared member by member over the names of both, in the order of the names. The names
that neither object has may be added without any effect, so several objects can be compared over the
names of all of them. -/

namespace Json

variable {a b members : List (String × Json)} {name other : String} {value : Json}

/-! ### Names -/

def names (members : List (String × Json)) : List String := members.map (·.1)

/-- The members stand in the order of their names, each name once. -/
def InOrder (members : List (String × Json)) : Prop := (names members).Pairwise (· < ·)

theorem mem_names_insertMember :
    other ∈ names (insertMember name value members) ↔ other = name ∨ other ∈ names members := by
  induction members with
  | nil => simp [insertMember, names]
  | cons m rest ih =>
      unfold names at ih ⊢
      rw [insertMember]
      cases place : compare name m.1 with
      | lt => simp
      | eq =>
          have same : name = m.1 := Std.LawfulEqOrd.eq_of_compare place
          simp [same]
      | gt => simp only [List.map_cons, List.mem_cons, ih, or_left_comm]

theorem InOrder.insertMember (ordered : InOrder members) (name : String) (value : Json) :
    InOrder (Json.insertMember name value members) := by
  induction members with
  | nil => exact List.pairwise_singleton _ _
  | cons m rest ih =>
      obtain ⟨first, later⟩ := List.pairwise_cons.mp ordered
      rw [Json.insertMember]
      cases place : compare name m.1 with
      | lt =>
          have below : name < m.1 := Std.LawfulLTCmp.eq_lt_iff_lt.mp place
          refine List.pairwise_cons.mpr ⟨fun other member => ?_, ordered⟩
          rcases List.mem_cons.mp member with rfl | member
          · exact below
          · exact String.lt_trans below (first other member)
      | eq =>
          have same : name = m.1 := Std.LawfulEqOrd.eq_of_compare place
          exact List.pairwise_cons.mpr ⟨fun other member => same ▸ first other member, later⟩
      | gt =>
          have above : m.1 < name :=
            Std.LawfulLTCmp.eq_lt_iff_lt.mp (Std.OrientedCmp.gt_iff_lt.mp place)
          refine List.pairwise_cons.mpr ⟨fun other member => ?_, ih later⟩
          rcases mem_names_insertMember.mp member with rfl | member
          · exact above
          · exact first other member

/-- The members of two lists, those of the second put in one after another. -/
theorem inOrder_foldl (ordered : InOrder a) (make : Json → Json) :
    InOrder (b.foldl (fun held m => insertMember m.1 (make m.2) held) a) := by
  induction b generalizing a with
  | nil => exact ordered
  | cons m rest ih => exact ih (ordered.insertMember _ _)

theorem mem_names_foldl (make : Json → Json) :
    name ∈ names (b.foldl (fun held m => insertMember m.1 (make m.2) held) a) ↔
      name ∈ names a ∨ name ∈ names b := by
  induction b generalizing a with
  | nil => simp [names]
  | cons m rest ih =>
      rw [List.foldl_cons, ih, mem_names_insertMember]
      simp only [names, List.map_cons, List.mem_cons]
      tauto

theorem forall_insertMember {p : Json → Prop} (new : p value) (each : ∀ m ∈ members, p m.2) :
    ∀ m ∈ insertMember name value members, p m.2 := by
  induction members with
  | nil => exact List.forall_mem_singleton.mpr new
  | cons m rest ih =>
      obtain ⟨first, later⟩ := List.forall_mem_cons.mp each
      rw [insertMember]
      cases compare name m.1 with
      | lt => exact List.forall_mem_cons.mpr ⟨new, each⟩
      | eq => exact List.forall_mem_cons.mpr ⟨new, later⟩
      | gt => exact List.forall_mem_cons.mpr ⟨first, ih later⟩

theorem forall_foldl {p : Json → Prop} (eachA : ∀ m ∈ a, p m.2) (eachB : ∀ m ∈ b, p m.2) :
    ∀ m ∈ b.foldl (fun held m => insertMember m.1 m.2 held) a, p m.2 := by
  induction b generalizing a with
  | nil => exact eachA
  | cons m rest ih =>
      obtain ⟨first, later⟩ := List.forall_mem_cons.mp eachB
      exact ih (forall_insertMember first eachA) later

/-! ### Names of two objects -/

theorem mem_unionNames : name ∈ unionNames a b ↔ name ∈ names a ∨ name ∈ names b :=
  mem_names_foldl fun _ => .null

theorem unionNames_increasing (ordered : InOrder a) (b : List (String × Json)) :
    (unionNames a b).Pairwise (· < ·) := inOrder_foldl ordered fun _ => .null

theorem unionNames_comm (orderedA : InOrder a) (orderedB : InOrder b) :
    unionNames b a = unionNames a b := by
  refine List.Pairwise.eq_of_mem_iff (unionNames_increasing orderedB a)
    (unionNames_increasing orderedA b) fun name => ?_
  rw [mem_unionNames, mem_unionNames, or_comm]

/-- There is a list of the names of three objects, each once and in order. -/
theorem exists_names (ordered : InOrder a) (b c : List (String × Json)) :
    ∃ wide : List String, wide.Pairwise (· < ·) ∧
      ∀ name, name ∈ names a ∨ name ∈ names b ∨ name ∈ names c → name ∈ wide := by
  have both : InOrder (b.foldl (fun held m => insertMember m.1 .null held) a) :=
    inOrder_foldl ordered fun _ => .null
  refine ⟨unionNames _ c, unionNames_increasing both c, fun name given => ?_⟩
  rw [mem_unionNames, mem_names_foldl fun _ => .null, or_assoc]
  exact given

/-- The value of a member; one that is missing reads as NULL. -/
def member (members : List (String × Json)) (name : String) : Json :=
  (members.lookup name).getD .null

theorem member_of_not_mem (absent : name ∉ names members) : member members name = .null := by
  have missing : members.lookup name = none := by
    refine List.lookup_eq_none_iff.mpr fun m inside => bne_iff_ne.mpr ?_
    rintro rfl
    exact absent (List.mem_map_of_mem inside)
  rw [member, missing, Option.getD_none]

/-! ### First differences -/

variable {cmp : Json → Json → Ordering} {held : Json → Prop}

theorem firstDifference_cons (o : Ordering) (orders : List Ordering) :
    firstDifference (o :: orders) = o.then (firstDifference orders) := by
  cases o <;> rfl

theorem firstDifference_of_eq {orders : List Ordering} (equal : ∀ o ∈ orders, o = .eq) :
    firstDifference orders = .eq := by
  induction orders with
  | nil => rfl
  | cons o rest ih =>
      obtain ⟨rfl, later⟩ := List.forall_mem_cons.mp equal
      rw [firstDifference_cons, ih later, Ordering.eq_then]

theorem firstDifference_swap (orders : List Ordering) :
    firstDifference (orders.map Ordering.swap) = (firstDifference orders).swap := by
  induction orders with
  | nil => rfl
  | cons o rest ih =>
      rw [List.map_cons, firstDifference_cons, firstDifference_cons, ih, Ordering.swap_then]

/-- Comparisons that give equality may be left out. -/
theorem firstDifference_filter {names : List String} {kept : String → Bool} {f : String → Ordering}
    (equal : ∀ name ∈ names, kept name = false → f name = .eq) :
    firstDifference ((names.filter kept).map f) = firstDifference (names.map f) := by
  induction names with
  | nil => rfl
  | cons name rest ih =>
      obtain ⟨first, later⟩ := List.forall_mem_cons.mp equal
      rw [List.map_cons, firstDifference_cons, ← ih later]
      cases keep : kept name with
      | true => rw [List.filter_cons_of_pos keep, List.map_cons, firstDifference_cons]
      | false =>
          rw [List.filter_cons_of_neg (by simp [keep]), first keep]
          rfl

/-- Two objects may be compared over more names than they have. -/
theorem firstDifference_unionNames (ordered : InOrder a) (same : cmp .null .null = .eq)
    {wide : List String} (increasing : wide.Pairwise (· < ·))
    (within : ∀ name ∈ unionNames a b, name ∈ wide) :
    firstDifference ((unionNames a b).map fun name => cmp (member a name) (member b name)) =
      firstDifference (wide.map fun name => cmp (member a name) (member b name)) := by
  have picked : unionNames a b = wide.filter (· ∈ unionNames a b) := by
    refine List.Pairwise.eq_of_mem_iff (unionNames_increasing ordered b) (increasing.filter _) ?_
    intro name
    rw [List.mem_filter, decide_eq_true_eq]
    exact ⟨fun inside => ⟨within name inside, inside⟩, And.right⟩
  rw [picked]
  refine firstDifference_filter fun name _ absent => ?_
  rw [decide_eq_false_iff_not, mem_unionNames, not_or] at absent
  rw [member_of_not_mem absent.1, member_of_not_mem absent.2, same]

theorem firstDifference_trans (total : TotalOn cmp held) : ∀ {xs ys zs : List Json},
    xs.length = ys.length → ys.length = zs.length → (∀ x ∈ xs, held x) → (∀ y ∈ ys, held y) →
      (∀ z ∈ zs, held z) → (firstDifference (xs.zipWith cmp ys)).isLE →
        (firstDifference (ys.zipWith cmp zs)).isLE → (firstDifference (xs.zipWith cmp zs)).isLE := by
  intro xs
  induction xs with
  | nil => exact fun _ _ _ _ _ _ _ => rfl
  | cons x xs ih =>
      intro ys zs lengths others heldX heldY heldZ first second
      cases ys with
      | nil => cases lengths
      | cons y ys =>
          cases zs with
          | nil => cases others
          | cons z zs =>
              obtain ⟨hx, heldX⟩ := List.forall_mem_cons.mp heldX
              obtain ⟨hy, heldY⟩ := List.forall_mem_cons.mp heldY
              obtain ⟨hz, heldZ⟩ := List.forall_mem_cons.mp heldZ
              rw [List.zipWith_cons_cons, firstDifference_cons] at first second ⊢
              have later := ih (Nat.succ.inj lengths) (Nat.succ.inj others) heldX heldY heldZ
              exact total.then_trans hx hy hz (fun _ _ => later) first second

end Json

namespace Json

variable {a b c : Json} {depth : Nat}

/-! ### Documents -/

/-- Scalars come before arrays, and arrays before objects. -/
def level : Json → Nat
  | .array _ => 1
  | .object _ => 2
  | _ => 0

theorem level_of_rank (alike : a.rank = b.rank) : a.level = b.level := by
  cases a <;> cases b <;> first | rfl | exact absurd alike (Nat.ne_of_beq_eq_false rfl)

/-- A document made of such scalars, with the members of all objects in order. -/
inductive Made (leaf : Json → Prop) : Json → Prop
  | scalar {j : Json} : j.level = 0 → leaf j → Made leaf j
  | array {items : List Json} : (∀ j ∈ items, Made leaf j) → Made leaf (.array items)
  | object {members : List (String × Json)} : InOrder members →
      (∀ m ∈ members, Made leaf m.2) → Made leaf (.object members)

theorem Made.member {leaf : Json → Prop} {members : List (String × Json)} (missing : leaf .null)
    (each : ∀ m ∈ members, Made leaf m.2) (name : String) : Made leaf (member members name) := by
  rw [Json.member]
  cases found : members.lookup name with
  | none => exact .scalar rfl missing
  | some value =>
      obtain ⟨before, after, rfl, -⟩ := List.lookup_eq_some_iff.mp found
      exact each (name, value) (by simp)

/-- Objects are made by putting their members in one after another. -/
theorem Made.ofMembers {leaf : Json → Prop} {members : List (String × Json)}
    (each : ∀ m ∈ members, Made leaf m.2) : Made leaf (ofMembers members) :=
  .object (inOrder_foldl (a := []) List.Pairwise.nil id) (forall_foldl (a := []) nofun each)

theorem Made.scalar_of_level {leaf : Json → Prop} (made : Made leaf a) (same : a.level = 0) :
    leaf a := by
  cases made with
  | scalar _ held => exact held
  | array => cases same
  | object => cases same

theorem Made.array_of_level {leaf : Json → Prop} (made : Made leaf a) (same : a.level = 1) :
    ∃ items, a = .array items ∧ ∀ j ∈ items, Made leaf j := by
  cases made with
  | scalar zero => cases zero.symm.trans same
  | array each => exact ⟨_, rfl, each⟩
  | object => cases same

theorem Made.object_of_level {leaf : Json → Prop} (made : Made leaf a) (same : a.level = 2) :
    ∃ members, a = .object members ∧ InOrder members ∧ ∀ m ∈ members, Made leaf m.2 := by
  cases made with
  | scalar zero => cases zero.symm.trans same
  | array => cases same
  | object ordered each => exact ⟨_, rfl, ordered, each⟩

/-! ### Equal documents -/

mutual

theorem same_comm : ∀ a b : Json, same b a = same a b
  | .null, b | .bool _, b | .integer _, b | .float _, b | .string _, b => by
      cases b <;> simp [same, eq_comm, Double.numEq_comm]
  | .array x, b => by
      cases b with
      | array y => exact sameItems_comm x y
      | _ => rfl
  | .object x, b => by
      cases b with
      | object y => exact sameMembers_comm x y
      | _ => rfl

theorem sameItems_comm : ∀ x y : List Json, sameItems y x = sameItems x y
  | [], y => by cases y <;> rfl
  | a :: as, [] => rfl
  | a :: as, b :: bs => by rw [sameItems, sameItems, same_comm a b, sameItems_comm as bs]

theorem sameMembers_comm : ∀ x y : List (String × Json), sameMembers y x = sameMembers x y
  | [], y => by cases y <;> rfl
  | a :: as, [] => rfl
  | (m, a) :: as, (n, b) :: bs => by
      rw [sameMembers, sameMembers, same_comm a b, sameMembers_comm as bs, Bool.beq_comm]

end

theorem rank_eq_of_same (equal : same a b) : a.rank = b.rank := by
  cases a <;> cases b <;> first | rfl | cases equal

theorem compareTo_of_either (either : same a b || (isFalsy a && isFalsy b)) :
    compareTo depth a b = .eq := by
  unfold compareTo
  exact if_pos either

theorem compareTo_of_same (equal : same a b) : compareTo depth a b = .eq :=
  compareTo_of_either (by rw [equal, Bool.true_or])

theorem compareTo_of_falsy (falsy : isFalsy a && isFalsy b) : compareTo depth a b = .eq :=
  compareTo_of_either (by rw [falsy, Bool.or_true])

theorem compareTo_of_rank_ne (different : a.rank ≠ b.rank)
    (truthy : (isFalsy a && isFalsy b) = false) :
    compareTo depth a b = compare a.rank b.rank := by
  have unequal : same a b = false := by
    by_contra equal
    exact different (rank_eq_of_same (by simpa using equal))
  have neither : ¬(same a b || (isFalsy a && isFalsy b)) := by
    rw [unequal, truthy]
    decide
  cases depth with
  | zero => exact if_neg neither
  | succ depth =>
    cases a <;> cases b <;> first | exact absurd rfl different | exact if_neg neither

theorem compareTo_zero (a b : Json) :
    compareTo 0 a b = if isFalsy a && isFalsy b then .eq else compare a.rank b.rank := by
  have step : compareTo 0 a b =
    if same a b || (isFalsy a && isFalsy b) then .eq else compare a.rank b.rank := rfl
  rw [step]
  cases equal : same a b with
  | true => simp [rank_eq_of_same equal]
  | false => rfl

theorem compareTo_string (x y : String) :
    compareTo (depth + 1) (.string x) (.string y) = compare x y := by
  by_cases alike : x = y
  · have equal : same (.string x) (.string y) := beq_iff_eq.mpr alike
    rw [compareTo_of_same equal, alike, Std.ReflOrd.compare_self]
  · have unequal : same (.string x) (.string y) = false := beq_false_of_ne alike
    have truthy : (isFalsy (.string x) && isFalsy (.string y)) = false := by
      by_contra empty
      obtain ⟨rfl, rfl⟩ : x = "" ∧ y = "" := by simpa [isFalsy] using empty
      exact alike rfl
    refine if_neg ?_
    rw [unequal, truthy]
    decide

theorem compareTo_bool (x y : Bool) :
    compareTo (depth + 1) (.bool x) (.bool y) = compare x y := by
  cases x <;> cases y <;> rfl

theorem compareTo_number {x y : Double} (first : a.number? = some x) (second : b.number? = some y) :
    compareTo (depth + 1) a b =
      if same a b || (isFalsy a && isFalsy b) then .eq else compareNumbers x y := by
  cases a <;> cases b <;> cases first <;> cases second <;> rfl

theorem sameItems_zipWith : ∀ {x y : List Json}, sameItems x y →
    x.length = y.length ∧ ∀ o ∈ x.zipWith (compareTo depth) y, o = .eq
  | [], [], _ => ⟨rfl, nofun⟩
  | [], _ :: _, equal | _ :: _, [], equal => by cases equal
  | a :: as, b :: bs, equal => by
      obtain ⟨first, later⟩ := (Bool.and_eq_true _ _).mp equal
      obtain ⟨lengths, orders⟩ := sameItems_zipWith later
      exact ⟨congrArg (· + 1) lengths, List.forall_mem_cons.mpr ⟨compareTo_of_same first, orders⟩⟩

theorem sameMembers_member : ∀ {x y : List (String × Json)}, sameMembers x y → ∀ name,
    same (member x name) (member y name)
  | [], [], _, name => rfl
  | [], _ :: _, equal, _ | _ :: _, [], equal, _ => by cases equal
  | (m, a) :: as, (n, b) :: bs, equal, name => by
      simp only [sameMembers, Bool.and_eq_true, beq_iff_eq] at equal
      obtain ⟨⟨rfl, first⟩, later⟩ := equal
      have rest := sameMembers_member later name
      unfold member at rest ⊢
      rw [List.lookup_cons, List.lookup_cons]
      cases name == m with
      | true => exact first
      | false => exact rest

theorem compareTo_array (x y : List Json) :
    compareTo (depth + 1) (.array x) (.array y) =
      (compare x.length y.length).then (firstDifference (x.zipWith (compareTo depth) y)) := by
  cases equal : same (.array x) (.array y) with
  | true =>
      obtain ⟨lengths, orders⟩ := sameItems_zipWith equal
      rw [compareTo_of_same equal, lengths, Std.ReflOrd.compare_self, firstDifference_of_eq orders]
      rfl
  | false =>
      refine if_neg ?_
      rw [equal]
      exact Bool.false_ne_true

theorem compareTo_object (x y : List (String × Json)) :
    compareTo (depth + 1) (.object x) (.object y) =
      firstDifference ((unionNames x y).map fun name =>
        compareTo depth (member x name) (member y name)) := by
  cases equal : same (.object x) (.object y) with
  | true =>
      rw [compareTo_of_same equal]
      refine (firstDifference_of_eq (List.forall_mem_map.mpr fun name _ => ?_)).symm
      exact compareTo_of_same (sameMembers_member equal name)
  | false =>
      refine if_neg ?_
      rw [equal]
      exact Bool.false_ne_true

/-! ### Reversal -/

theorem compareNumbers_swap (x y : Double) : compareNumbers y x = (compareNumbers x y).swap := by
  rw [compareNumbers, compareNumbers, Double.numLe_abs_sub_comm]
  split
  · rfl
  · exact Std.OrientedOrd.eq_swap

theorem firstDifference_zipWith_swap {cmp : Json → Json → Ordering} : ∀ {x y : List Json},
    (∀ a ∈ x, ∀ b ∈ y, cmp b a = (cmp a b).swap) →
      firstDifference (y.zipWith cmp x) = (firstDifference (x.zipWith cmp y)).swap
  | [], [], _ | [], _ :: _, _ | _ :: _, [], _ => rfl
  | a :: as, b :: bs, each => by
      have first : cmp b a = (cmp a b).swap := each a (by simp) b (by simp)
      have later := firstDifference_zipWith_swap (x := as) (y := bs) fun c inA d inB =>
        each c (by simp [inA]) d (by simp [inB])
      rw [List.zipWith_cons_cons, List.zipWith_cons_cons, firstDifference_cons, firstDifference_cons,
        first, later, Ordering.swap_then]

theorem compareTo_number_swap {x y : Double} (first : a.number? = some x)
    (second : b.number? = some y) :
    compareTo (depth + 1) b a = (compareTo (depth + 1) a b).swap := by
  rw [compareTo_number first second, compareTo_number second first, same_comm a b,
    Bool.and_comm (isFalsy b), compareNumbers_swap x y]
  split <;> rfl

theorem compareTo_scalar_swap (scalar : a.level = 0) (alike : a.rank = b.rank) :
    compareTo (depth + 1) b a = (compareTo (depth + 1) a b).swap := by
  cases a <;> cases b <;> try exact absurd alike (Nat.ne_of_beq_eq_false rfl)
  case null.null => rfl
  case bool.bool x y =>
    rw [compareTo_bool, compareTo_bool]
    exact Std.OrientedOrd.eq_swap
  case string.string x y =>
    rw [compareTo_string, compareTo_string]
    exact Std.OrientedOrd.eq_swap
  case array.array => cases scalar
  case object.object => cases scalar
  all_goals exact compareTo_number_swap rfl rfl

/-- Documents that change sides compare the other way round, to any depth. -/
theorem compareTo_swap {leaf : Json → Prop} (missing : leaf .null) (madeA : Made leaf a)
    (madeB : Made leaf b) : compareTo depth b a = (compareTo depth a b).swap := by
  induction depth generalizing a b with
  | zero =>
      rw [compareTo_zero, compareTo_zero, Bool.and_comm]
      split
      · rfl
      · exact (Nat.compare_swap _ _).symm
  | succ depth ih =>
      cases falsy : isFalsy a && isFalsy b with
      | true =>
          rw [compareTo_of_falsy falsy, compareTo_of_falsy (by rwa [Bool.and_comm])]
          rfl
      | false =>
          -- of two kinds, only the kinds count
          by_cases alike : a.rank = b.rank
          · cases madeA with
            | scalar scalar => exact compareTo_scalar_swap scalar alike
            | array itemsX =>
                obtain ⟨y, rfl, itemsY⟩ := madeB.array_of_level (level_of_rank alike).symm
                rw [compareTo_array, compareTo_array, Ordering.swap_then, Nat.compare_swap,
                  firstDifference_zipWith_swap fun c inX d inY => ih (itemsX c inX) (itemsY d inY)]
            | object orderedX membersX =>
                obtain ⟨y, rfl, orderedY, membersY⟩ := madeB.object_of_level (level_of_rank alike).symm
                rw [compareTo_object, compareTo_object, unionNames_comm orderedX orderedY,
                  ← firstDifference_swap, List.map_map]
                refine congrArg firstDifference (List.map_congr_left fun name _ => ?_)
                exact ih (.member missing membersX name) (.member missing membersY name)
          · rw [compareTo_of_rank_ne alike falsy,
              compareTo_of_rank_ne (Ne.symm alike) (by rwa [Bool.and_comm]), Nat.compare_swap]

/-- Any two documents that change sides compare the other way round. -/
theorem order_swap (madeA : Made (fun _ => True) a) (madeB : Made (fun _ => True) b) :
    order b a = (order a b).swap := compareTo_swap trivial madeA madeB

/-! ### Transitivity -/

theorem compareTo_of_level_ne (different : a.level ≠ b.level) :
    compareTo depth a b = compare a.level b.level := by
  have truthy : (isFalsy a && isFalsy b) = false := by
    cases a <;> cases b <;> first | rfl | exact absurd rfl different | simp [isFalsy]
  have ranks : a.rank ≠ b.rank := fun alike => different (level_of_rank alike)
  rw [compareTo_of_rank_ne ranks truthy]
  cases a <;> cases b <;> first | rfl | exact absurd rfl different

/-- Scalars are compared without a look at what is deeper. -/
theorem compareTo_scalar (scalar : a.level = 0) (b : Json) :
    compareTo (depth + 1) a b = compareTo 1 a b := by
  cases a <;> cases b <;> first | rfl | cases scalar

theorem compareTo_object_over {x y : List (String × Json)} (ordered : InOrder x)
    {wide : List String} (increasing : wide.Pairwise (· < ·))
    (within : ∀ name, name ∈ names x ∨ name ∈ names y → name ∈ wide) :
    compareTo (depth + 1) (.object x) (.object y) =
      firstDifference ((wide.map (member x)).zipWith (compareTo depth) (wide.map (member y))) := by
  rw [compareTo_object, firstDifference_unionNames ordered (compareTo_of_same rfl) increasing
    fun name inside => within name (mem_unionNames.mp inside), List.zipWith_map, List.zipWith_self]

theorem compareTo_array_trans {leaf : Json → Prop} {x y z : List Json}
    (total : TotalOn (compareTo depth) (Made leaf)) (madeX : ∀ j ∈ x, Made leaf j)
    (madeY : ∀ j ∈ y, Made leaf j) (madeZ : ∀ j ∈ z, Made leaf j)
    (first : (compareTo (depth + 1) (.array x) (.array y)).isLE)
    (second : (compareTo (depth + 1) (.array y) (.array z)).isLE) :
    (compareTo (depth + 1) (.array x) (.array z)).isLE := by
  rw [compareTo_array] at first second ⊢
  have lengths : TotalOn (compare : Nat → Nat → Ordering) fun _ => True := .of_transCmp _
  refine lengths.then_trans trivial trivial trivial (fun sameXY sameYZ => ?_) first second
  exact firstDifference_trans total (Nat.compare_eq_eq.mp sameXY) (Nat.compare_eq_eq.mp sameYZ) madeX
    madeY madeZ

theorem compareTo_object_trans {leaf : Json → Prop} {x y z : List (String × Json)}
    (missing : leaf .null) (total : TotalOn (compareTo depth) (Made leaf)) (orderedX : InOrder x)
    (orderedY : InOrder y) (madeX : ∀ m ∈ x, Made leaf m.2) (madeY : ∀ m ∈ y, Made leaf m.2)
    (madeZ : ∀ m ∈ z, Made leaf m.2)
    (first : (compareTo (depth + 1) (.object x) (.object y)).isLE)
    (second : (compareTo (depth + 1) (.object y) (.object z)).isLE) :
    (compareTo (depth + 1) (.object x) (.object z)).isLE := by
  -- the names of all three, so that each pair is compared over the same names
  obtain ⟨wide, increasing, all⟩ := exists_names orderedX y z
  rw [compareTo_object_over orderedX increasing (by grind)] at first ⊢
  rw [compareTo_object_over orderedY increasing (by grind)] at second
  have values : ∀ {members : List (String × Json)}, (∀ m ∈ members, Made leaf m.2) →
      ∀ j ∈ wide.map (member members), Made leaf j := fun made =>
    List.forall_mem_map.mpr fun name _ => .member missing made name
  exact firstDifference_trans total (by simp) (by simp) (values madeX) (values madeY) (values madeZ)
    first second

theorem totalOn_of_levels {leaf : Json → Prop} (missing : leaf .null)
    (scalars : TotalOn (compareTo depth) fun j => j.level = 0 ∧ leaf j)
    (arrays : ∀ x y z : List Json, (∀ j ∈ x, Made leaf j) → (∀ j ∈ y, Made leaf j) →
      (∀ j ∈ z, Made leaf j) → (compareTo depth (.array x) (.array y)).isLE →
        (compareTo depth (.array y) (.array z)).isLE → (compareTo depth (.array x) (.array z)).isLE)
    (objects : ∀ x y z : List (String × Json), InOrder x → InOrder y → (∀ m ∈ x, Made leaf m.2) →
      (∀ m ∈ y, Made leaf m.2) → (∀ m ∈ z, Made leaf m.2) →
        (compareTo depth (.object x) (.object y)).isLE →
          (compareTo depth (.object y) (.object z)).isLE →
            (compareTo depth (.object x) (.object z)).isLE) :
    TotalOn (compareTo depth) (Made leaf) := by
  refine .of_rank level (fun a b _ _ different => compareTo_of_level_ne different)
    (fun a b madeA madeB _ => compareTo_swap missing madeA madeB) ?_
  intro a b c madeA madeB madeC sameAB sameBC first second
  cases madeA with
  | scalar zero held =>
      have zeroB := sameAB.symm.trans zero
      have zeroC := sameBC.symm.trans zeroB
      exact scalars.trans _ _ _ ⟨zero, held⟩ ⟨zeroB, madeB.scalar_of_level zeroB⟩
        ⟨zeroC, madeC.scalar_of_level zeroC⟩ first second
  | array madeX =>
      obtain ⟨y, rfl, madeY⟩ := madeB.array_of_level sameAB.symm
      obtain ⟨z, rfl, madeZ⟩ := madeC.array_of_level sameBC.symm
      exact arrays _ _ _ madeX madeY madeZ first second
  | object orderedX madeX =>
      obtain ⟨y, rfl, orderedY, madeY⟩ := madeB.object_of_level sameAB.symm
      obtain ⟨z, rfl, -, madeZ⟩ := madeC.object_of_level sameBC.symm
      exact objects _ _ _ orderedX orderedY madeX madeY madeZ first second

/-- The order of documents is transitive wherever that of their scalars is. -/
theorem totalOn_made {leaf : Json → Prop} (missing : leaf .null)
    (shallow : TotalOn (compareTo 0) fun j => j.level = 0 ∧ leaf j)
    (deep : TotalOn (compareTo 1) fun j => j.level = 0 ∧ leaf j) (depth : Nat) :
    TotalOn (compareTo depth) (Made leaf) := by
  induction depth with
  | zero =>
      -- nothing but the kinds counts here
      refine totalOn_of_levels missing shallow ?_ ?_
      · intro x _ z _ _ _ _ _
        rw [compareTo_zero]
        rfl
      · intro x _ z _ _ _ _ _ _ _
        rw [compareTo_zero]
        rfl
  | succ depth ih =>
      have scalars : TotalOn (compareTo (depth + 1)) fun j => j.level = 0 ∧ leaf j := by
        constructor
        · rintro a b ⟨zeroA, heldA⟩ ⟨zeroB, heldB⟩
          rw [compareTo_scalar zeroA b, compareTo_scalar zeroB a]
          exact deep.swap a b ⟨zeroA, heldA⟩ ⟨zeroB, heldB⟩
        · rintro a b c ⟨zeroA, heldA⟩ ⟨zeroB, heldB⟩ ⟨zeroC, heldC⟩
          rw [compareTo_scalar zeroA b, compareTo_scalar zeroB c, compareTo_scalar zeroA c]
          exact deep.trans a b c ⟨zeroA, heldA⟩ ⟨zeroB, heldB⟩ ⟨zeroC, heldC⟩
      refine totalOn_of_levels missing scalars ?_ ?_
      · intro x y z madeX madeY madeZ
        exact compareTo_array_trans ih madeX madeY madeZ
      · intro x y z orderedX orderedY madeX madeY madeZ
        exact compareTo_object_trans missing ih orderedX orderedY madeX madeY madeZ

/-! ### Documents with a total order -/

/-- No two of the numbers are within the tolerance. -/
def Apart (numbers : Set Double) : Prop :=
  ∀ x ∈ numbers, ∀ y ∈ numbers, (x.sub y).abs.numLe tolerance → x = y

/-- NULL, or a scalar that counts as true, if it is a number then one of these. -/
def Plain (numbers : Set Double) (j : Json) : Prop :=
  j = .null ∨ (j.isFalsy = false ∧ ∀ x, j.number? = some x → x ∈ numbers)

variable {numbers : Set Double}

theorem rank_eq_of_falsy (plainA : Plain numbers a) (plainB : Plain numbers b)
    (falsy : isFalsy a && isFalsy b) : a.rank = b.rank := by
  obtain ⟨falsyA, falsyB⟩ := (Bool.and_eq_true _ _).mp falsy
  obtain rfl : a = .null := plainA.resolve_right fun truthy => by simp [truthy.1] at falsyA
  obtain rfl : b = .null := plainB.resolve_right fun truthy => by simp [truthy.1] at falsyB
  rfl

theorem compareTo_plain_of_rank_ne (plainA : Plain numbers a) (plainB : Plain numbers b)
    (different : a.rank ≠ b.rank) : compareTo depth a b = compare a.rank b.rank := by
  refine compareTo_of_rank_ne different ?_
  by_contra falsy
  exact different (rank_eq_of_falsy plainA plainB (by simpa using falsy))

theorem Plain.number (plain : Plain numbers a) {x : Double} (given : a.number? = some x) :
    a.isFalsy = false ∧ x ∈ numbers := by
  obtain rfl | ⟨truthy, held⟩ := plain
  · cases given
  · exact ⟨truthy, held x given⟩

theorem rank_eq_of_same_number {x y : Double} (first : a.number? = some x)
    (second : b.number? = some y) (truthy : a.isFalsy = false) (equal : same a b) :
    x.rank = y.rank := by
  cases a <;> cases b <;> cases first <;> cases second
  case integer.integer i j =>
    obtain rfl : i = j := beq_iff_eq.mp equal
    rfl
  case float.float => exact Double.rank_eq_of_numEq truthy equal
  all_goals cases equal

theorem compareTo_plain_number (apart : Apart numbers) (plainA : Plain numbers a)
    (plainB : Plain numbers b) {x y : Double} (first : a.number? = some x)
    (second : b.number? = some y) : compareTo 1 a b = x.totalCompare y := by
  obtain ⟨truthy, inX⟩ := plainA.number first
  obtain ⟨-, inY⟩ := plainB.number second
  rw [compareTo_number first second, truthy, Bool.false_and, Bool.or_false]
  cases equal : same a b with
  | true =>
      rw [if_pos rfl, Double.totalCompare, rank_eq_of_same_number first second truthy equal,
        Std.ReflOrd.compare_self]
  | false =>
      rw [if_neg Bool.false_ne_true, compareNumbers]
      split
      · rename_i close
        rw [apart x inX y inY close, Double.totalCompare, Std.ReflOrd.compare_self]
      · rfl

theorem compareTo_plain_trans (apart : Apart numbers) (scalar : a.level = 0) (same : a.rank = b.rank)
    (other : b.rank = c.rank) (plainA : Plain numbers a) (plainB : Plain numbers b)
    (plainC : Plain numbers c) (first : (compareTo 1 a b).isLE) (second : (compareTo 1 b c).isLE) :
    (compareTo 1 a c).isLE := by
  cases a <;> cases b <;> try exact absurd same (Nat.ne_of_beq_eq_false rfl)
  all_goals cases c <;> try exact absurd other (Nat.ne_of_beq_eq_false rfl)
  case null.null.null => rfl
  case bool.bool.bool =>
    rw [compareTo_bool] at first second ⊢
    exact Std.TransOrd.isLE_trans first second
  case string.string.string =>
    rw [compareTo_string] at first second ⊢
    exact Std.TransOrd.isLE_trans first second
  case array.array.array => cases scalar
  case object.object.object => cases scalar
  all_goals
    rw [compareTo_plain_number apart plainA plainB rfl rfl] at first
    rw [compareTo_plain_number apart plainB plainC rfl rfl] at second
    rw [compareTo_plain_number apart plainA plainC rfl rfl]
    exact Std.TransOrd.isLE_trans first second

theorem totalOn_plain_shallow :
    TotalOn (compareTo 0) fun j => j.level = 0 ∧ Plain numbers j := by
  have kinds : ∀ a b : Json, a.rank = b.rank → compareTo 0 a b = .eq := by
    intro a b same
    rw [compareTo_zero, same, Std.ReflOrd.compare_self, ite_self]
  refine .of_rank rank
    (fun a b heldA heldB different => compareTo_plain_of_rank_ne heldA.2 heldB.2 different) ?_ ?_
  · intro a b _ _ same
    rw [kinds a b same, kinds b a same.symm]
    rfl
  · intro a b c _ _ _ same other _ _
    rw [kinds a c (same.trans other)]
    rfl

theorem totalOn_plain (apart : Apart numbers) :
    TotalOn (compareTo 1) fun j => j.level = 0 ∧ Plain numbers j := by
  refine .of_rank rank
    (fun a b heldA heldB different => compareTo_plain_of_rank_ne heldA.2 heldB.2 different) ?_ ?_
  · rintro a b ⟨zero, -⟩ - same
    exact compareTo_scalar_swap zero same
  · rintro a b c ⟨zero, plainA⟩ ⟨-, plainB⟩ ⟨-, plainC⟩ same other first second
    exact compareTo_plain_trans apart zero same other plainA plainB plainC first second

/-- Documents are totally ordered if their scalars are NULL or count as true, and their numbers are
further apart than the tolerance. -/
theorem totalOn_documents (apart : Apart numbers) (depth : Nat) :
    TotalOn (compareTo depth) (Made (Plain numbers)) :=
  totalOn_made (.inl rfl) totalOn_plain_shallow (totalOn_plain apart) depth

/-- The whole numbers of up to 53 binary digits. -/
def wholeNumbers : Set Double := {x | ∃ i : Int, i.natAbs < 2 ^ 53 ∧ Double.ofInt i = x}

theorem apart_wholeNumbers : Apart wholeNumbers := by
  rintro _ ⟨i, smallI, rfl⟩ _ ⟨j, smallJ, rfl⟩ close
  by_contra different
  have distance : 1023 * 2 ^ 52 ≤ ((Double.ofInt i).sub (Double.ofInt j)).magnitude :=
    Double.one_le_sub_ofInt smallI smallJ fun same => different (same ▸ rfl)
  have within : ((Double.ofInt i).sub (Double.ofInt j)).abs.place ≤ tolerance.place :=
    of_decide_eq_true ((Bool.and_eq_true _ _).mp close).2
  have bound : tolerance.place < 1023 * 2 ^ 52 := by decide +kernel
  rw [Double.place_abs] at within
  omega

/-- NULL, `true`, texts that are not empty and whole numbers that are not zero make up documents with
a total order. -/
theorem totalOn_order_whole : TotalOn order (Made (Plain wholeNumbers)) :=
  totalOn_documents apart_wholeNumbers maxDepth

/-- The order of all documents is not transitive. A text is below `false`, which is equal to zero,
and not below zero. -/
theorem order_not_transitive :
    ¬∀ a b c : Json, (order a b).isLE → (order b c).isLE → (order a c).isLE := by
  intro transitive
  have bound : (order (.string "a") (.integer 0)).isLE :=
    transitive (.string "a") (.bool false) (.integer 0) (by decide +kernel) (by decide +kernel)
  exact absurd bound (by decide +kernel)

end Json

end SqlEngine
