/-!
Arithmetic on machine words of 64 bits that stops where a result does not fit.
-/

namespace Polyad

/-- The number of words. -/
def wordCount : Nat := UInt64.size

/-- Which operation had a result that does not fit. -/
inductive Overflow where
  | add | subtract
  deriving DecidableEq, Repr

namespace Overflow

/-- The sentence shown to a user. -/
def message : Overflow → String
  | add => "attempt to add with overflow"
  | subtract => "attempt to subtract with overflow"

end Overflow

/-- A sum, if it is a word. -/
def addWords (a b : Nat) : Except Overflow Nat :=
  if a + b < wordCount then .ok (a + b) else .error .add

/-- A difference, if it is a word. -/
def subtractWords (a b : Nat) : Except Overflow Nat :=
  if b ≤ a then .ok (a - b) else .error .subtract

end Polyad
