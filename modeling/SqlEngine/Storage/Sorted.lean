/-!
Lists kept in the order of a comparison, as sets and as maps.
-/

namespace SqlEngine

namespace Sorted

variable {κ α : Type}

/-- Adds a key to an ordered set; `none` when an equal key is there. -/
def add? (cmp : κ → κ → Ordering) (key : κ) : List κ → Option (List κ)
  | [] => some [key]
  | held :: rest =>
    match cmp key held with
    | .lt => some (key :: held :: rest)
    | .eq => none
    | .gt => (add? cmp key rest).map (held :: ·)

/-- The entry of a key in an ordered map. -/
def find? (cmp : κ → κ → Ordering) (key : κ) : List (κ × α) → Option α
  | [] => none
  | (held, a) :: rest =>
    match cmp key held with
    | .lt => none
    | .eq => some a
    | .gt => find? cmp key rest

/-- Changes the entry of a key in an ordered map: `f` is given the entry, if there is one, and
tells what takes its place. A key that is there stays as it is. -/
def alter (cmp : κ → κ → Ordering) (key : κ) (f : Option α → Option α) :
    List (κ × α) → List (κ × α)
  | [] => (f none).toList.map (key, ·)
  | (held, a) :: rest =>
    match cmp key held with
    | .lt => (f none).toList.map (key, ·) ++ (held, a) :: rest
    | .eq => (f (some a)).toList.map (held, ·) ++ rest
    | .gt => (held, a) :: alter cmp key f rest

def insert (cmp : κ → κ → Ordering) (key : κ) (a : α) (entries : List (κ × α)) : List (κ × α) :=
  alter cmp key (fun _ => some a) entries

def erase (cmp : κ → κ → Ordering) (key : κ) (entries : List (κ × α)) : List (κ × α) :=
  alter cmp key (fun _ => none) entries

end Sorted

end SqlEngine
