/-!
Sets of code points, as ranges in ascending order.
-/

namespace Polyad.CodePoint

/-- Whether a code point lies in one of some ascending ranges. -/
def within (point : Nat) : List (Nat × Nat) → Bool
  | [] => false
  | (low, high) :: rest =>
    if point < low then false else if point ≤ high then true else within point rest

end Polyad.CodePoint
