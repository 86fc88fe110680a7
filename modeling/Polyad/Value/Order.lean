import Polyad.Value.Basic
import Polyad.Tuple.Order
/-!
The order of values. Kinds come in a fixed order; within a kind, integers go
by value, `false` before `true`, letters and texts by code point, an absent
value before a present one, and tuples first by arity and then slot by slot.
-/

namespace Polyad.Value

mutual

/-- Which of two values comes first. -/
def compare : Value → Value → Ordering
  | int a, int b => Ord.compare a b
  | bool a, bool b => Ord.compare a b
  | char a, char b => Ord.compare a b
  | text a, text b => Ord.compare a b
  | absent, absent => .eq
  | absent, present _ => .lt
  | present _, absent => .gt
  | present a, present b => compare a b
  | @tuple n s, @tuple m t =>
    match Ord.compare n m with
    | .eq => compareSlots s t
    | decided => decided
  | a, b => Ord.compare a.kind.rank b.kind.rank

/-- The order of the slots of two tuples. A tuple that ends first comes first. -/
def compareSlots {n m : Nat} : Tuple Value n → Tuple Value m → Ordering
  | .nil, .nil => .eq
  | .nil, .cons _ _ => .lt
  | .cons _ _, .nil => .gt
  | .cons a s, .cons b t =>
    match compare a b with
    | .eq => compareSlots s t
    | decided => decided

end

theorem compareSlots_cons {n m : Nat} (a b : Value) (s : Tuple Value n) (t : Tuple Value m) :
    compareSlots (.cons a s) (.cons b t) = (a.compare b).then (compareSlots s t) := by
  cases hhead : a.compare b <;> simp [compareSlots, hhead]

theorem compare_tuple {n m : Nat} (s : Tuple Value n) (t : Tuple Value m) :
    (tuple s).compare (tuple t) = (Ord.compare n m).then (compareSlots s t) := rfl

/-- The kinds of two values decide unless they are the same. -/
theorem compare_eq_then (a b : Value) :
    a.compare b = (Ord.compare a.kind.rank b.kind.rank).then
      (match a, b with
      | int a, int b => Ord.compare a b
      | bool a, bool b => Ord.compare a b
      | char a, char b => Ord.compare a b
      | text a, text b => Ord.compare a b
      | absent, present _ => .lt
      | present _, absent => .gt
      | present a, present b => a.compare b
      | @tuple n s, @tuple m t => (Ord.compare n m).then (compareSlots s t)
      | _, _ => .eq) := by
  cases a <;> cases b <;> rfl

/-- Tuples inside a value are in the same order as tuples of values. -/
theorem compareSlots_eq_compare {n : Nat} (s t : Tuple Value n) :
    compareSlots s t = s.compare compare t := by
  induction s, t using Tuple.induction₂ with
  | nil => simp [compareSlots, Tuple.compare]
  | cons n a b s t ih => rw [compareSlots_cons, Tuple.compare_cons, ih]

/-- Any two values can be compared. -/
def partialCompare (a b : Value) : Option Ordering :=
  some (a.compare b)

/-- Comparisons of slots that can be asked for by name. -/
inductive Comparison where
  /-- The order of values. -/
  | natural
  /-- The order of values with the two exchanged. -/
  | reverse
  /-- The same answer whatever the values. -/
  | always (answer : Ordering)
  /-- By kind alone. -/
  | kind
  /-- By length alone. -/
  | length
  deriving DecidableEq, Repr

/-- What a comparison answers. -/
def Comparison.ask : Comparison → Value → Value → Ordering
  | natural, a, b => a.compare b
  | reverse, a, b => b.compare a
  | always answer, _, _ => answer
  | kind, a, b => Ord.compare a.kind.rank b.kind.rank
  | length, a, b => Ord.compare a.length b.length

end Polyad.Value
