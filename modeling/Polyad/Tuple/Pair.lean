import Polyad.Tuple.Basic
/-!
Operations that only pairs have: exchanging the two slots, and moving between
a pair and the entry of a map whose key is the first slot.
-/

namespace Polyad.Tuple

universe u

variable {α : Type u}

/-- Exchange the two slots. -/
def swap : Tuple α 2 → Tuple α 2
  | cons first (cons second nil) => cons second (cons first nil)

@[simp] theorem swap_swap (t : Tuple α 2) : t.swap.swap = t := by
  cases t with | cons first rest => cases rest with | cons second rest => cases rest; rfl

/-- The key and the value that a pair stands for. -/
def toEntry : Tuple α 2 → α × α
  | cons key (cons value nil) => (key, value)

/-- The pair that an entry stands for. -/
def ofEntry (entry : α × α) : Tuple α 2 :=
  cons entry.1 (cons entry.2 nil)

@[simp] theorem ofEntry_toEntry (t : Tuple α 2) : ofEntry t.toEntry = t := by
  cases t with | cons first rest => cases rest with | cons second rest => cases rest; rfl

@[simp] theorem toEntry_ofEntry (entry : α × α) : (ofEntry entry).toEntry = entry := rfl

end Polyad.Tuple
