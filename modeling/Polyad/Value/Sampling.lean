import Polyad.Value.Basic
/-!
Values as test data. Integers shrink towards zero and `true` to `false`; no
other value has anything smaller.
-/

namespace Polyad.Value

/-- The integers that lie between zero and `number` at `number - step`,
    `number - step / 2` and so on, while the step is not zero. -/
def approach (number step : Int) : List Int :=
  if step = 0 then [] else (number - step) :: approach number (step.tdiv 2)
termination_by step.natAbs
decreasing_by
  rw [Int.natAbs_tdiv]
  exact Nat.div_lt_self (by omega) (by decide)

/-- The integers that are tried in place of one: zero, then its magnitude if
    it is below minus one and has one, then those that approach it by halves. -/
def smallerNumbers (number : Int64) : List Int64 :=
  if number = 0 then [] else
    let magnitude :=
      if number.toInt.tdiv 2 < 0 ∧ number ≠ Int64.minValue then [number.toInt.natAbs] else []
    (0 :: magnitude.map Int.ofNat ++ approach number.toInt (number.toInt.tdiv 2)).map Int64.ofInt

/-- The values that are tried in place of one. -/
def smaller : Value → List Value
  | int number => (smallerNumbers number).map int
  | bool true => [bool false]
  | _ => []

/-- The next value of a list, and an absent value once it is used up. -/
def takeNext : List Value → Value × List Value
  | [] => (absent, [])
  | value :: rest => (value, rest)

end Polyad.Value
