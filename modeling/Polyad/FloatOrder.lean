/-!
The order of floating-point numbers. A number that is not one is equal to
nothing, itself included, and comes neither before nor after anything.
-/

namespace Polyad

/-- How two numbers compare, if they do. -/
def floatCompare (a b : Float) : Option Ordering :=
  if a < b then some .lt
  else if a > b then some .gt
  else if a == b then some .eq
  else none

/-- Whether two numbers are equal. Zeros of either sign are. -/
def floatEqual (a b : Float) : Bool :=
  a == b

end Polyad
