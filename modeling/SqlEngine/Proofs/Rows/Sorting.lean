import SqlEngine.Rows.Sorting

/-!
Sorting brings no new items, whatever the order is.
-/

namespace SqlEngine

namespace Sorting

variable {α : Type} (precedes : α → α → Bool) {P : α → Prop}

/-! ### Short lists -/

theorem forall_insertDescending {item : α} (hitem : P item) :
    ∀ {items : List α}, (∀ x ∈ items, P x) → ∀ x ∈ insertDescending precedes item items, P x := by
  intro items
  induction items with
  | nil => simpa [insertDescending] using hitem
  | cons held rest ih =>
      intro each
      obtain ⟨hheld, hrest⟩ := List.forall_mem_cons.mp each
      rw [insertDescending]
      split
      · exact List.forall_mem_cons.mpr ⟨hheld, ih hrest⟩
      · exact List.forall_mem_cons.mpr ⟨hitem, each⟩

theorem forall_insertAll : ∀ {items held : List α}, (∀ x ∈ held, P x) → (∀ x ∈ items, P x) →
    ∀ x ∈ insertAll precedes held items, P x := by
  intro items
  induction items with
  | nil => exact fun hheld _ => hheld
  | cons item rest ih =>
      intro held hheld each
      obtain ⟨hitem, hrest⟩ := List.forall_mem_cons.mp each
      exact ih (forall_insertDescending precedes hitem hheld) hrest

theorem forall_byInsertion {items : List α} (each : ∀ x ∈ items, P x) :
    ∀ x ∈ byInsertion precedes items, P x := by
  intro x member
  exact forall_insertAll precedes (by simp) each x (List.mem_reverse.mp member)

theorem forall_ofFour {a b c d : α} (ha : P a) (hb : P b) (hc : P c) (hd : P d) :
    ∀ x ∈ ofFour precedes a b c d, P x := by
  rw [ofFour]
  cases precedes b a <;> cases precedes d c <;> simp only [Bool.false_eq_true, if_true, if_false] <;>
    split <;> split <;> simp only [List.forall_mem_cons] <;> simp_all

theorem forall_half (whole : Nat) {items : List α} (each : ∀ x ∈ items, P x) :
    ∀ x ∈ half precedes whole items, P x := by
  unfold half
  split
  · simp only [List.forall_mem_cons] at each
    obtain ⟨ha, hb, hc, hd, hrest⟩ := each
    split
    · apply forall_byInsertion
      simp only [List.forall_mem_cons]
      exact ⟨ha, hb, hc, hd, hrest⟩
    · intro x member
      refine forall_insertAll precedes ?_ hrest x (List.mem_reverse.mp member)
      intro y there
      exact forall_ofFour precedes ha hb hc hd y (List.mem_reverse.mp there)
  · exact forall_byInsertion precedes each

theorem forall_mergeFirst : ∀ (n : Nat) {as bs : List α}, (∀ x ∈ as, P x) → (∀ x ∈ bs, P x) →
    (∀ x ∈ (mergeFirst precedes n as bs).1, P x) ∧ (∀ x ∈ (mergeFirst precedes n as bs).2.1, P x) ∧
      ∀ x ∈ (mergeFirst precedes n as bs).2.2, P x := by
  intro n
  induction n with
  | zero => exact fun has hbs => ⟨by simp [mergeFirst], has, hbs⟩
  | succ n ih =>
      intro as bs has hbs
      cases as with
      | nil => exact ⟨by simp [mergeFirst], has, hbs⟩
      | cons a as =>
          cases bs with
          | nil => exact ⟨by simp [mergeFirst], has, hbs⟩
          | cons b bs =>
              obtain ⟨ha, hrestA⟩ := List.forall_mem_cons.mp has
              obtain ⟨hb, hrestB⟩ := List.forall_mem_cons.mp hbs
              simp only [mergeFirst]
              split
              · obtain ⟨merged, left, right⟩ := ih has hrestB
                exact ⟨List.forall_mem_cons.mpr ⟨hb, merged⟩, left, right⟩
              · obtain ⟨merged, left, right⟩ := ih hrestA hbs
                exact ⟨List.forall_mem_cons.mpr ⟨ha, merged⟩, left, right⟩

theorem forall_reverse {items : List α} (each : ∀ x ∈ items, P x) : ∀ x ∈ items.reverse, P x :=
  fun x member => each x (List.mem_reverse.mp member)

theorem forall_append {left right : List α} (first : ∀ x ∈ left, P x) (second : ∀ x ∈ right, P x) :
    ∀ x ∈ left ++ right, P x :=
  List.forall_mem_append.mpr ⟨first, second⟩

theorem forall_take {items : List α} (each : ∀ x ∈ items, P x) (n : Nat) :
    ∀ x ∈ items.take n, P x :=
  fun x member => each x (List.mem_of_mem_take member)

theorem forall_drop {items : List α} (each : ∀ x ∈ items, P x) (n : Nat) :
    ∀ x ∈ items.drop n, P x :=
  fun x member => each x (List.mem_of_mem_drop member)

theorem forall_meet {left right : List α} (first : ∀ x ∈ left, P x) (second : ∀ x ∈ right, P x) :
    ∀ x ∈ meet precedes left right, P x := by
  obtain ⟨front, leftRest, rightRest⟩ :=
    forall_mergeFirst precedes ((left.length + right.length) / 2) first second
  obtain ⟨back, _, _⟩ := forall_mergeFirst (fun a b => precedes b a)
    ((left.length + right.length) / 2) (forall_reverse second) (forall_reverse first)
  simp only [meet]
  split
  · exact forall_byInsertion precedes (forall_append first second)
  · exact forall_append (forall_append (forall_append front (forall_take leftRest _))
      (forall_take rightRest _)) (forall_reverse back)

theorem forall_short {items : List α} (each : ∀ x ∈ items, P x) :
    ∀ x ∈ short precedes items, P x := by
  rw [short]
  split
  · exact each
  · rw [List.splitAt_eq]
    exact forall_meet precedes (forall_half precedes _ (forall_take each _))
      (forall_half precedes _ (forall_drop each _))

/-! ### Runs -/

theorem forall_merge {left right : List α} (first : ∀ x ∈ left, P x) (second : ∀ x ∈ right, P x) :
    ∀ x ∈ merge precedes left right, P x := by
  intro x member
  rw [merge] at member
  split at member
  · rcases List.mem_merge.mp member with there | there
    · exact first x there
    · exact second x there
  · rcases List.mem_merge.mp (List.mem_reverse.mp member) with there | there
    · exact second x (List.mem_reverse.mp there)
    · exact first x (List.mem_reverse.mp there)

theorem forall_cut (least : Nat) (atOnce : Bool) {items : List α} (each : ∀ x ∈ items, P x) :
    (∀ x ∈ (cut precedes least atOnce items).1.items, P x) ∧
      ∀ x ∈ (cut precedes least atOnce items).2, P x := by
  simp only [cut, List.splitAt_eq]
  split
  · refine ⟨?_, forall_drop each _⟩
    cases (leadingRun precedes items).2
    · exact forall_take each _
    · exact forall_reverse (forall_take each _)
  · split
    · exact ⟨forall_short precedes (forall_take each _), forall_drop each _⟩
    · exact ⟨forall_take each _, forall_drop each _⟩

theorem forall_joinDeeper {join : Run α → Run α → Run α}
    (joined : ∀ a b : Run α, (∀ x ∈ a.items, P x) → (∀ x ∈ b.items, P x) →
      ∀ x ∈ (join a b).items, P x) (depth : Nat) :
    ∀ {runs : List (Run α × Nat)} {last : Run α}, (∀ run ∈ runs, ∀ x ∈ run.1.items, P x) →
      (∀ x ∈ last.items, P x) →
        (∀ run ∈ (joinDeeper join depth runs last).1, ∀ x ∈ run.1.items, P x) ∧
          ∀ x ∈ (joinDeeper join depth runs last).2.items, P x := by
  intro runs
  induction runs with
  | nil => exact fun hruns hlast => ⟨hruns, hlast⟩
  | cons first rest ih =>
      intro last hruns hlast
      obtain ⟨hfirst, hrest⟩ := List.forall_mem_cons.mp hruns
      obtain ⟨run, held⟩ := first
      rw [joinDeeper]
      split
      · exact ih hrest (joined run last hfirst hlast)
      · exact ⟨hruns, hlast⟩

theorem forall_joinRuns {cut : List α → Run α × List α} {join : Run α → Run α → Run α}
    (depth : Nat → Nat → Nat → Nat)
    (joined : ∀ a b : Run α, (∀ x ∈ a.items, P x) → (∀ x ∈ b.items, P x) →
      ∀ x ∈ (join a b).items, P x)
    (parts : ∀ items : List α, (∀ x ∈ items, P x) →
      (∀ x ∈ (cut items).1.items, P x) ∧ ∀ x ∈ (cut items).2, P x) :
    ∀ (fuel start : Nat) {runs : List (Run α × Nat)} {last : Run α} {items : List α},
      (∀ run ∈ runs, ∀ x ∈ run.1.items, P x) → (∀ x ∈ last.items, P x) → (∀ x ∈ items, P x) →
        ∀ x ∈ (joinRuns cut join depth fuel start runs last items).items, P x := by
  intro fuel
  induction fuel with
  | zero =>
      intro start runs last items hruns hlast _
      rw [joinRuns]
      · exact (forall_joinDeeper joined 0 hruns hlast).2
      · simp
  | succ fuel ih =>
      intro start runs last items hruns hlast each
      cases items with
      | nil => exact (forall_joinDeeper joined 0 hruns hlast).2
      | cons first rest =>
          obtain ⟨hnext, hleft⟩ := parts (first :: rest) each
          obtain ⟨hdeeper, hjoined⟩ := forall_joinDeeper joined
            (depth start (start + last.items.length)
              (start + last.items.length + (cut (first :: rest)).1.items.length)) hruns hlast
          exact ih _ (List.forall_mem_cons.mpr ⟨hjoined, hdeeper⟩) hnext hleft

theorem forall_byRuns {settle : List α → List α}
    (settled : ∀ items : List α, (∀ x ∈ items, P x) → ∀ x ∈ settle items, P x) (atOnce : Bool)
    {items : List α} (each : ∀ x ∈ items, P x) :
    ∀ x ∈ byRuns precedes settle atOnce items, P x := by
  have inOrder : ∀ run : Run α, (∀ x ∈ run.items, P x) →
      ∀ x ∈ (if run.inOrder then run.items else settle run.items), P x := by
    intro run hrun
    split
    · exact hrun
    · exact settled run.items hrun
  obtain ⟨first, rest⟩ := forall_cut precedes (leastRun items.length) atOnce each
  refine inOrder _ (forall_joinRuns _ ?_ (fun _ => forall_cut precedes _ atOnce) _ _ (by simp)
    first rest)
  intro a b ha hb
  split
  · exact forall_merge precedes (inOrder a ha) (inOrder b hb)
  · exact forall_append ha hb

/-! ### Pivots -/

theorem forall_partitionAround (position : Nat) (outcome : Bool) (test : α → Bool)
    {items : List α} (each : ∀ x ∈ items, P x) :
    (∀ x ∈ (partitionAround position outcome test items).1, P x) ∧
      ∀ x ∈ (partitionAround position outcome test items).2, P x := by
  have numbered : ∀ e ∈ items.zipIdx, P e.1 := by
    rintro ⟨x, place⟩ member
    obtain ⟨bound, equal⟩ := List.mem_zipIdx' member
    have there : x ∈ items := equal ▸ List.getElem_mem bound
    exact each x there
  simp only [partitionAround, List.partition_eq_filter_filter]
  constructor <;> intro x member <;> obtain ⟨e, there, rfl⟩ := List.mem_map.mp member <;>
    exact numbered e (List.mem_filter.mp there).1

theorem forall_byPivots : ∀ (limit : Nat) {leftPivot : Option α} {items : List α},
    (∀ x ∈ items, P x) → ∀ x ∈ byPivots precedes limit leftPivot items, P x := by
  intro limit
  induction limit with
  | zero =>
      intro leftPivot items each
      rw [byPivots]
      split
      · exact forall_short precedes each
      · exact forall_byRuns precedes (fun _ h => h) true each
  | succ limit ih =>
      intro leftPivot items each
      simp only [byPivots]
      split
      · exact forall_short precedes each
      · split
        · exact each
        · rename_i chosen _
          obtain ⟨less, others⟩ :=
            forall_partitionAround (pivot precedes items) false (precedes · chosen) each
          obtain ⟨equal, greater⟩ :=
            forall_partitionAround (pivot precedes items) true (!precedes chosen ·) each
          split
          · exact forall_append equal (ih greater)
          · exact forall_append (ih less) (ih others)

theorem forall_sorted {items : List α} (each : ∀ x ∈ items, P x) :
    ∀ x ∈ sorted precedes items, P x := by
  simp only [sorted]
  split
  · exact forall_byInsertion precedes each
  · exact forall_byRuns precedes (fun _ h => forall_byPivots precedes _ h) _ each

end Sorting

theorem KeyOrder.forall_sorted {P : Row × Row → Prop} (keyOrders : List (KeyOrder × SqlType))
    {rows : List (Row × Row)} (each : ∀ e ∈ rows, P e) : ∀ e ∈ KeyOrder.sorted keyOrders rows, P e := by
  simp only [KeyOrder.sorted]
  split
  · exact fun e member => each e (List.mem_mergeSort.mp member)
  · exact Sorting.forall_sorted _ each

end SqlEngine
