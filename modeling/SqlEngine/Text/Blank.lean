/-!
Sets of characters as lists of code point ranges, and case maps as lists of ranges that are moved
by a fixed distance. White space in the sense of Unicode, and the ways text is cut at it.
-/

namespace SqlEngine

/-- The code points from `first` to `last`, both included. -/
structure CodeRange where
  first : Nat
  last : Nat
deriving DecidableEq, Repr, Inhabited

/-- Every `step`-th code point from `first` to `last`, moved by `distance`. -/
structure CodeShift where
  first : Nat
  last : Nat
  step : Nat
  distance : Int
deriving DecidableEq, Repr, Inhabited

namespace Text

def inRanges (ranges : List CodeRange) (c : Char) : Bool :=
  ranges.any fun r => r.first ≤ c.toNat && c.toNat ≤ r.last

/-- The character moved by the first shift that covers it. -/
def shifted? (shifts : List CodeShift) (c : Char) : Option Char :=
  (shifts.find? fun s => s.first ≤ c.toNat && c.toNat ≤ s.last
    && (c.toNat - s.first) % s.step == 0).map fun s =>
      Char.ofNat ((c.toNat : Int) + s.distance).toNat

end Text

/-! ### White space -/

namespace Text

/-- The Unicode property White_Space. -/
def blankRanges : List CodeRange :=
  [⟨9, 13⟩, ⟨32, 32⟩, ⟨133, 133⟩, ⟨160, 160⟩, ⟨5760, 5760⟩, ⟨8192, 8202⟩, ⟨8232, 8233⟩,
  ⟨8239, 8239⟩, ⟨8287, 8287⟩, ⟨12288, 12288⟩]

def isBlank (c : Char) : Bool := inRanges blankRanges c

/-- Without the blanks at the front. -/
def dropBlanks (cs : List Char) : List Char := cs.dropWhile isBlank

/-- Without the blanks at the end. -/
def dropEndBlanks (cs : List Char) : List Char := (dropBlanks cs.reverse).reverse

def trim (cs : List Char) : List Char := dropEndBlanks (dropBlanks cs)

/-- Without the blanks at both ends. -/
def trimmed (s : String) : String := String.ofList (trim s.toList)

/-- Adds a character in front of a list of words, the first of which it extends. -/
def extendWord (c : Char) : List (List Char) → List (List Char)
  | [] => [[c]]
  | word :: rest => (c :: word) :: rest

/-- The pieces between blanks, empty pieces included. -/
def pieces : List Char → List (List Char)
  | [] => [[]]
  | c :: rest => if isBlank c then [] :: pieces rest else extendWord c (pieces rest)

/-- The words: maximal runs without a blank. -/
def words (cs : List Char) : List (List Char) := (pieces cs).filter (!·.isEmpty)

end Text

end SqlEngine
