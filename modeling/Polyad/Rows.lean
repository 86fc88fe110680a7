import Polyad.Tuple.Order
import Polyad.Value.Order
import Polyad.Value.Digest
/-!
Lists of tuples of one arity: sorted, without repetitions, and as an ordered
set; and lists of pairs as a map.
-/

namespace Polyad.Rows

universe u v

variable {α : Type u} {κ : Type v}

/-- Put a row into a sequence that is written from its last row to its first,
    behind every row that is not greater. -/
def insertLast (cmp : α → α → Ordering) (row : α) : List α → List α
  | [] => [row]
  | last :: rest => if cmp row last = .lt then last :: insertLast cmp row rest else row :: last :: rest

/-- Sort rows. Rows that compare equal keep their order. -/
def sort (cmp : α → α → Ordering) (rows : List α) : List α :=
  (rows.foldl (fun sorted row => insertLast cmp row sorted) []).reverse

/-- Put a row into an ordered set, which keeps the row it has of two equal
    ones. -/
def insertOrdered (cmp : α → α → Ordering) (row : α) : List α → List α
  | [] => [row]
  | first :: rest =>
    match cmp row first with
    | .lt => row :: first :: rest
    | .eq => first :: rest
    | .gt => first :: insertOrdered cmp row rest

/-- The ordered set of some rows. -/
def orderedSet (cmp : α → α → Ordering) (rows : List α) : List α :=
  rows.foldl (fun set row => insertOrdered cmp row set) []

/-- Put a row into a hashed set. A row is looked for among those with the same
    digest only. -/
def insertHashed [DecidableEq κ] (digest : α → κ) (eq : α → α → Bool) (row : α)
    (set : List α) : List α :=
  if set.any fun other => digest other = digest row && eq other row then set else row :: set

/-- The hashed set of some rows, in no particular order. -/
def hashedSet [DecidableEq κ] (digest : α → κ) (eq : α → α → Bool) (rows : List α) : List α :=
  rows.foldl (fun set row => insertHashed digest eq row set) []

/-- Put an entry into a map in the order of its keys. A later value for a key
    replaces the earlier one. -/
def insertEntry (cmp : κ → κ → Ordering) (entry : κ × α) : List (κ × α) → List (κ × α)
  | [] => [entry]
  | first :: rest =>
    match cmp entry.1 first.1 with
    | .lt => entry :: first :: rest
    | .eq => (first.1, entry.2) :: rest
    | .gt => first :: insertEntry cmp entry rest

/-- The map of some entries. -/
def mapOfEntries (cmp : κ → κ → Ordering) (entries : List (κ × α)) : List (κ × α) :=
  entries.foldl (fun map entry => insertEntry cmp entry map) []

end Polyad.Rows
