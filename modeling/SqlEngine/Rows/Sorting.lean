import SqlEngine.Expr.Basic
import SqlEngine.Rows.Cursor

/-!
Sorting by runs.

Under a total order any two stable sorts give the same list. The order of documents is not
transitive: what a sort gives depends on which items it compares, and the order of comparisons is
part of the meaning. A list of up to twenty items is sorted by insertion. A longer one is cut into
runs, which are in order already or are sorted by themselves, and neighbouring runs are merged. A
long list without runs in order is partitioned around pivots until its parts are short.
-/

namespace SqlEngine

namespace Sorting

variable {α : Type} (precedes : α → α → Bool)

/-! ### Short lists -/

/-- Puts an item into a list that runs from the greatest item to the least, in front of the first
item that it does not precede. -/
def insertDescending (item : α) : List α → List α
  | [] => [item]
  | held :: rest =>
    if precedes item held then held :: insertDescending item rest else item :: held :: rest

/-- Puts items one after the other into a list that runs from the greatest item to the least. -/
def insertAll (held items : List α) : List α :=
  items.foldl (fun held item => insertDescending precedes item held) held

/-- Sorts by putting one item after the other where it belongs, counted from the end. -/
def byInsertion (items : List α) : List α := (insertAll precedes [] items).reverse

/-- Four items in order: the lesser ones of two pairs are compared, then the greater ones, and at
last the two whose places are still open. -/
def ofFour (a b c d : α) : List α :=
  let (a, b) := if precedes b a then (b, a) else (a, b)
  let (c, d) := if precedes d c then (d, c) else (c, d)
  let (least, left, right, greatest) := match precedes c a, precedes d b with
    | false, false => (a, b, c, d)
    | false, true => (a, c, d, b)
    | true, false => (c, a, b, d)
    | true, true => (c, a, d, b)
  if precedes right left then [least, right, left, greatest] else [least, left, right, greatest]

/-- Sorts one half of the given number of items. -/
def half (whole : Nat) : List α → List α
  | a :: b :: c :: d :: rest =>
    if whole < 8 then byInsertion precedes (a :: b :: c :: d :: rest)
    else (insertAll precedes (ofFour precedes a b c d).reverse rest).reverse
  | items => byInsertion precedes items

/-- The first `n` items of two merged lists, and what is left of each. -/
def mergeFirst : Nat → List α → List α → List α × List α × List α
  | n + 1, a :: as, b :: bs =>
    if precedes b a then
      let (merged, rest) := mergeFirst n (a :: as) bs
      (b :: merged, rest)
    else
      let (merged, rest) := mergeFirst n as (b :: bs)
      (a :: merged, rest)
  | _, as, bs => ([], as, bs)

/-- Merges two lists from both ends at once. Where the ends claim the same item, the order
contradicts itself, and the items are sorted by insertion. -/
def meet (left right : List α) : List α :=
  let count := (left.length + right.length) / 2
  let (front, leftRest, rightRest) := mergeFirst precedes count left right
  let (back, rightFirst, leftFirst) :=
    mergeFirst (fun a b => precedes b a) count right.reverse left.reverse
  let leftSpan := leftRest.length + leftFirst.length
  let rightSpan := rightRest.length + rightFirst.length
  if leftSpan < left.length || rightSpan < right.length then byInsertion precedes (left ++ right)
  else front ++ leftRest.take (leftSpan - left.length)
    ++ rightRest.take (rightSpan - right.length) ++ back.reverse

/-- The number of items that are sorted at once. -/
def shortLength : Nat := 32

/-- Sorts a short list half by half. -/
def short (items : List α) : List α :=
  if items.length < 2 then items
  else
    let (left, right) := items.splitAt (items.length / 2)
    meet precedes (half precedes items.length left) (half precedes items.length right)

/-! ### Runs -/

/-- Merges two lists in order, from the side of the shorter one. -/
def merge (left right : List α) : List α :=
  if left.length ≤ right.length then left.merge right fun a b => !precedes b a
  else (right.reverse.merge left.reverse fun b a => !precedes b a).reverse

/-- How many items go on in one direction behind an item. -/
def continued (descending : Bool) (before : α) : List α → Nat
  | [] => 0
  | item :: rest =>
    if precedes item before == descending then continued descending item rest + 1 else 0

/-- How many items at the front are in order, and whether they strictly descend. -/
def leadingRun : List α → Nat × Bool
  | first :: second :: rest =>
    let descending := precedes second first
    (continued precedes descending second rest + 2, descending)
  | items => (items.length, false)

/-- A stretch of the items, which may be in order already. -/
structure Run (α : Type) where
  items : List α
  inOrder : Bool

/-- The first run of a list and what follows it. A run that is there in order has to have a certain
length to count. In its place comes a short list, if those are to be sorted at once, or else as many
items as they come. -/
def cut (least : Nat) (atOnce : Bool) (items : List α) : Run α × List α :=
  let (length, descending) := leadingRun precedes items
  if least ≤ length then
    let (run, rest) := items.splitAt length
    (⟨if descending then run.reverse else run, true⟩, rest)
  else if atOnce then
    let (run, rest) := items.splitAt shortLength
    (⟨short precedes run, true⟩, rest)
  else
    let (run, rest) := items.splitAt least
    (⟨run, false⟩, rest)

/-- The whole number near the square root, after one step of approximation. -/
def nearRoot (n : Nat) : Nat :=
  let shift := (1 + n.log2) / 2
  ((1 <<< shift) + (n >>> shift)) / 2

/-- The length from which on a run counts. -/
def leastRun (n : Nat) : Nat := if n ≤ 4096 then min (n - n / 2) 64 else nearRoot n

/-- How deep the merge of two neighbouring runs, given by their bounds, stands in the tree of all
merges of `n` items. -/
def mergeDepth (n left middle right : Nat) : Nat :=
  let scale := (Nat.pow 2 62 + n - 1) / n
  let apart := (scale * (left + middle)) ^^^ (scale * (middle + right))
  if apart == 0 then 64 else 63 - apart.log2

/-- Joins the last run with the runs before it whose merges stand at least as deep. -/
def joinDeeper (join : Run α → Run α → Run α) (depth : Nat) :
    List (Run α × Nat) → Run α → List (Run α × Nat) × Run α
  | (run, held) :: runs, last =>
    if depth ≤ held then joinDeeper join depth runs (join run last) else ((run, held) :: runs, last)
  | [], last => ([], last)

/-- Joins all runs. The last one begins at `start`; of those before it the nearest comes first, with
the depth of its merge. -/
def joinRuns (cut : List α → Run α × List α) (join : Run α → Run α → Run α)
    (depth : Nat → Nat → Nat → Nat) :
    Nat → Nat → List (Run α × Nat) → Run α → List α → Run α
  | fuel + 1, start, runs, last, first :: rest =>
    let (next, rest) := cut (first :: rest)
    let middle := start + last.items.length
    let depthHere := depth start middle (middle + next.items.length)
    let (runs, last) := joinDeeper join depthHere runs last
    joinRuns cut join depth fuel middle ((last, depthHere) :: runs) next rest
  | _, _, runs, last, _ => (joinDeeper join 0 runs last).2

/-- Sorts by runs. Runs that are not in order are joined without sorting them as long as none of
them is in order. -/
def byRuns (settle : List α → List α) (atOnce : Bool) (items : List α) : List α :=
  let settled (run : Run α) : List α := if run.inOrder then run.items else settle run.items
  let join (left right : Run α) : Run α :=
    if left.inOrder || right.inOrder then ⟨merge precedes (settled left) (settled right), true⟩
    else ⟨left.items ++ right.items, false⟩
  let cut := cut precedes (leastRun items.length) atOnce
  let (first, rest) := cut items
  settled (joinRuns cut join (mergeDepth items.length) items.length 0 [] first rest)

/-! ### Pivots -/

/-- The position of the middle one of three items. -/
def middleOf (before : Nat → Nat → Bool) (a b c : Nat) : Nat :=
  let first := before a b
  if first == before a c then if before b c == first then b else c else a

/-- The position of a pivot near three stretches of `n` items each. -/
def middleNear (before : Nat → Nat → Bool) : Nat → Nat → Nat → Nat → Nat → Nat
  | fuel + 1, n, a, b, c =>
    if n < 8 then middleOf before a b c
    else
      let part := n / 8
      let near (first : Nat) : Nat :=
        middleNear before fuel part first (first + part * 4) (first + part * 7)
      middleOf before (near a) (near b) (near c)
  | 0, _, a, b, c => middleOf before a b c

/-- The position of the pivot of a list. -/
def pivot (items : List α) : Nat :=
  let held := items.toArray
  let before (i j : Nat) : Bool := match held[i]?, held[j]? with
    | some a, some b => precedes a b
    | _, _ => false
  let part := held.size / 8
  middleNear before held.size part 0 (part * 4) (part * 7)

/-- The items that pass a test and those that do not; the outcome for one position is given. -/
def partitionAround (position : Nat) (outcome : Bool) (test : α → Bool) (items : List α) :
    List α × List α :=
  let (passed, failed) := items.zipIdx.partition fun (item, i) =>
    if i == position then outcome else test item
  (passed.map (·.1), failed.map (·.1))

/-- Sorts by partitions around pivots, in at most `limit` rounds. Items equal to the pivot of the
part to the left need no further sorting. -/
def byPivots : Nat → Option α → List α → List α
  | 0, _, items =>
    if items.length ≤ shortLength then short precedes items else byRuns precedes id true items
  | limit + 1, leftPivot, items =>
    if items.length ≤ shortLength then short precedes items
    else
      let position := pivot precedes items
      match items[position]? with
      | none => items
      | some chosen =>
        let (less, others) := partitionAround position false (precedes · chosen) items
        if less.isEmpty || leftPivot.any (!precedes · chosen) then
          let (equal, greater) := partitionAround position true (!precedes chosen ·) items
          equal ++ byPivots limit none greater
        else byPivots limit leftPivot less ++ byPivots limit (some chosen) others

/-- Lists that are sorted by insertion are no longer than this. -/
def insertionLength : Nat := 20

/-- Sorts a list. Under a total order equal items keep their order. -/
def sorted (items : List α) : List α :=
  if items.length ≤ insertionLength then byInsertion precedes items
  else
    let settle (items : List α) : List α :=
      byPivots precedes (2 * (items.length ||| 1).log2) none items
    byRuns precedes settle (items.length ≤ 2 * shortLength) items

end Sorting

/-! ### Keys

Sorting rows by keys. Rows with equal keys keep their order.
-/

/-- The order of two values of a type as one key sees them. -/
def KeyOrder.compare (k : KeyOrder) (type : SqlType) (a b : Value) : Ordering :=
  let nullsFirst := k.nullsFirst.getD !k.descending
  match a.isNull, b.isNull with
  | true, true => .eq
  | true, false => if nullsFirst then .lt else .gt
  | false, true => if nullsFirst then .gt else .lt
  | false, false =>
    let o := (type.compare? a b).getD .eq
    if k.descending then o.swap else o

/-- The order of two lists of key values: the first key that tells them apart decides. -/
def KeyOrder.compareAll : List (KeyOrder × SqlType) → Row → Row → Ordering
  | (k, type) :: keys, a :: as, b :: bs => (k.compare type a b).then (compareAll keys as bs)
  | _, _, _ => .eq

/-- Sorts rows that stand behind their keys; rows with equal keys keep their order. Where the keys
have no total order, the steps of the sort decide. -/
def KeyOrder.sorted (keyOrders : List (KeyOrder × SqlType)) (rows : List (Row × Row)) :
    List (Row × Row) :=
  let order (a b : Row × Row) : Ordering := compareAll keyOrders a.1 b.1
  if keyOrders.all (·.2.hasTotalOrder) then rows.mergeSort fun a b => order a b != .gt
  else Sorting.sorted (fun a b => order a b == .lt) rows

/-- The rows of a source, sorted. -/
def Cursor.order (keyOrders : List (KeyOrder × SqlType)) (keys : Row → Eval Row)
    (source : Cursor) : Cursor :=
  deferred do
    let reversed ← source.fold (fun rows row => do return ((← keys row), row) :: rows) []
    return (KeyOrder.sorted keyOrders reversed.reverse).map (·.2)

end SqlEngine
