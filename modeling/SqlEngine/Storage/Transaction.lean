/-!
Nested transactions over a key-value store.

A transaction is a chain of levels. The oldest one, the root, holds the committed entries. Every
level above it holds the entries written there, with a mark for entries that were removed; a key
that a level never wrote is read from the levels below. Committing a level applies its entries to
the level below, rolling it back drops them.
-/

namespace SqlEngine

namespace Entries

variable {κ ν : Type} [DecidableEq κ]

/-- Drops the entry of a key; lists of entries hold a key at most once. -/
def erase (key : κ) (entries : List (κ × ν)) : List (κ × ν) :=
  entries.filter fun e => e.1 ≠ key

def insert (key : κ) (value : ν) (entries : List (κ × ν)) : List (κ × ν) :=
  (key, value) :: erase key entries

end Entries

/-- The entries written at one level; `none` marks a removed key. -/
abbrev Overlay (κ ν : Type) := List (κ × Option ν)

/-- One level of a transaction: how many levels are below it, and what was written at it. -/
structure Level (κ ν : Type) where
  depth : Nat
  writes : Overlay κ ν
deriving Repr

namespace Level

variable {κ ν : Type} [DecidableEq κ]

def write (level : Level κ ν) (key : κ) (slot : Option ν) : Level κ ν :=
  { level with writes := Entries.insert key slot level.writes }

def forget (level : Level κ ν) (key : κ) : Level κ ν :=
  { level with writes := Entries.erase key level.writes }

/-- Removes a key: a level above the root leaves a mark, the root just loses the entry. -/
def remove (isChild : Bool) (level : Level κ ν) (key : κ) : Level κ ν :=
  if isChild then level.write key none else level.forget key

/-- Applies an entry of the level above. -/
def apply (isChild : Bool) (level : Level κ ν) (entry : κ × Option ν) : Level κ ν :=
  match entry.2 with
  | some value => level.write entry.1 (some value)
  | none => level.remove isChild entry.1

/-- Applies all entries of the level above. -/
def merge (isChild : Bool) (parent child : Level κ ν) : Level κ ν :=
  child.writes.foldl (apply isChild) parent

/-- The entry of a key: the newest level that wrote it decides. -/
def read (key : κ) : List (Level κ ν) → Option ν
  | [] => none
  | level :: below =>
    match level.writes.lookup key with
    | some slot => slot
    | none => read key below

/-- What becomes of the root when all levels above it are committed, the newest one first. -/
def commitAll (newest : Level κ ν) : List (Level κ ν) → Level κ ν
  | [] => newest
  | parent :: below => commitAll (merge (!below.isEmpty) parent newest) below

omit [DecidableEq κ] in
/-- The oldest of some levels. -/
def oldest (newest : Level κ ν) : List (Level κ ν) → Level κ ν
  | [] => newest
  | parent :: below => oldest parent below

end Level

/-- The newest level, and the ones below it down to the root. -/
structure Transaction (κ ν : Type) where
  newest : Level κ ν
  below : List (Level κ ν)
deriving Repr

/-- Why a level cannot be closed. The transaction is handed back. -/
inductive TransactionError (κ ν : Type) where
  /-- The root has no level below it. -/
  | noParent (transaction : Transaction κ ν)

/-- The transaction that was to be changed. -/
def TransactionError.transaction {κ ν : Type} : TransactionError κ ν → Transaction κ ν
  | noParent t => t

namespace Transaction

variable {κ ν : Type} [DecidableEq κ]

/-- A root without entries. -/
def empty : Transaction κ ν := ⟨⟨0, []⟩, []⟩

instance : Inhabited (Transaction κ ν) := ⟨empty⟩

omit [DecidableEq κ] in
def levels (t : Transaction κ ν) : List (Level κ ν) := t.newest :: t.below

omit [DecidableEq κ] in
/-- The number of levels above the root. -/
def depth (t : Transaction κ ν) : Nat := t.newest.depth

omit [DecidableEq κ] in
def isChild (t : Transaction κ ν) : Bool := !t.below.isEmpty

omit [DecidableEq κ] in
/-- The number of keys written at the newest level. -/
def writeCount (t : Transaction κ ν) : Nat := t.newest.writes.length

/-- The visible entry of a key. -/
def get? (t : Transaction κ ν) (key : κ) : Option ν := Level.read key t.levels

def contains (t : Transaction κ ν) (key : κ) : Bool := (t.get? key).isSome

def set (t : Transaction κ ν) (key : κ) (value : ν) : Transaction κ ν :=
  { t with newest := t.newest.write key (some value) }

/-- Removes a key; a level above the root leaves a mark even for a key that is not there. -/
def remove (t : Transaction κ ν) (key : κ) : Transaction κ ν :=
  { t with newest := t.newest.remove t.isChild key }

/-- Removes a key and gives the entry that was visible. -/
def take (t : Transaction κ ν) (key : κ) : Option ν × Transaction κ ν := (t.get? key, t.remove key)

/-- What the newest level holds for a key, or would hold if it had copied the entry below it. -/
def slot (t : Transaction κ ν) (key : κ) : Option ν :=
  match t.newest.writes.lookup key with
  | some slot => slot
  | none => Level.read key t.below

/-- Changes the visible entry of a key at the newest level, if there is one. -/
def modify? (t : Transaction κ ν) (key : κ) (f : ν → ν) : Option (Transaction κ ν) :=
  (t.slot key).map fun value => t.set key (f value)

/-- The visible entry of a key, or a new one, which is then written at the newest level. -/
def getOrInsert (t : Transaction κ ν) (key : κ) (init : ν) : ν × Transaction κ ν :=
  let value := (t.slot key).getD init
  (value, t.set key value)

omit [DecidableEq κ] in
/-- Opens a level. -/
def fork (t : Transaction κ ν) : Transaction κ ν := ⟨⟨t.depth + 1, []⟩, t.levels⟩

/-- The level below with the entries of the newest one; the root has no level below. -/
def commit? (t : Transaction κ ν) : Option (Transaction κ ν) :=
  match t.below with
  | [] => none
  | parent :: below => some ⟨Level.merge (!below.isEmpty) parent t.newest, below⟩

omit [DecidableEq κ] in
/-- The level below as it was; the root has no level below. -/
def rollback? (t : Transaction κ ν) : Option (Transaction κ ν) :=
  match t.below with
  | [] => none
  | parent :: below => some ⟨parent, below⟩

/-- Closes the newest level and keeps its entries. -/
def commit (t : Transaction κ ν) : Except (TransactionError κ ν) (Transaction κ ν) :=
  match t.commit? with
  | some parent => .ok parent
  | none => .error (.noParent t)

omit [DecidableEq κ] in
/-- Closes the newest level and drops its entries. -/
def rollback (t : Transaction κ ν) : Except (TransactionError κ ν) (Transaction κ ν) :=
  match t.rollback? with
  | some parent => .ok parent
  | none => .error (.noParent t)

/-- Commits all levels. -/
def commitAll (t : Transaction κ ν) : Transaction κ ν := ⟨Level.commitAll t.newest t.below, []⟩

omit [DecidableEq κ] in
/-- Rolls all levels back. -/
def rollbackAll (t : Transaction κ ν) : Transaction κ ν := ⟨Level.oldest t.newest t.below, []⟩

/-- Runs `body` in a new level. The newest level that it leaves open is committed if it succeeds
and rolled back if it fails. -/
def savepoint {ε α : Type} (t : Transaction κ ν)
    (body : Transaction κ ν → Except ε α × Transaction κ ν) : Except ε α × Transaction κ ν :=
  let (result, inner) := body t.fork
  match result with
  | .ok _ => (result, (inner.commit?).getD inner)
  | .error _ => (result, (inner.rollback?).getD inner)

/-- The keys written at some level, each once, the newest level first. -/
def writtenKeys (t : Transaction κ ν) : List κ :=
  (t.levels.flatMap fun level => level.writes.map (·.1)).eraseDups

/-- The keys with a visible entry. -/
def keys (t : Transaction κ ν) : List κ := t.writtenKeys.filter t.contains

end Transaction

end SqlEngine
