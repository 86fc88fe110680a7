import Polyad.Value.Basic
import Polyad.Text.Flags
import Polyad.Text.Escape
import Polyad.Text.Layout
/-!
The two texts of a value: the debug form, which every value has, and the form
for users, which optional values lack. Flags reach the innermost values and
act there; a tuple as a whole is never padded.
-/

namespace Polyad.Value

/-- The decimal or hexadecimal text of an integer. Hexadecimal digits are
    those of the two's complement. -/
def numberText (flags : Flags) (number : Int64) : List Char :=
  match flags.hexadecimal with
  | none => flags.padNumber (number < 0) [] (Nat.toDigits 10 number.toInt.natAbs)
  | some letterCase =>
    let digits := Nat.toDigits 16 number.toUInt64.toNat
    flags.padNumber false ['0', 'x'] (match letterCase with
      | .lower => digits
      | .upper => digits.map Char.toUpper)

/-- The decimal text of an integer, whatever base the flags ask for. -/
def decimalText (flags : Flags) (number : Int64) : List Char :=
  numberText { flags with hexadecimal := none } number

/-- The word for a boolean. -/
def boolText (flags : Flags) (answer : Bool) : List Char :=
  flags.padText (if answer then "true".toList else "false".toList)

mutual

/-- The debug form. -/
def debug (flags : Flags) : Value → List Char
  | int number => numberText flags number
  | bool answer => boolText flags answer
  | char letter => Escape.quotedLetter letter
  | text letters => Escape.quoted letters.toList
  | absent => "None".toList
  | present inner => Layout.tuple flags.alternate "Some".toList [debug flags inner]
  | @tuple 0 _ => ['(', ')']
  | @tuple (_ + 1) slots => Layout.tuple flags.alternate [] (debugSlots flags slots)

/-- The debug form of every slot. -/
def debugSlots (flags : Flags) {n : Nat} : Tuple Value n → List (List Char)
  | .nil => []
  | .cons head tail => debug flags head :: debugSlots flags tail

end

mutual

/-- The form for users, which a value with an optional value in it lacks. -/
def display? (flags : Flags) : Value → Option (List Char)
  | int number => some (decimalText flags number)
  | bool answer => some (boolText flags answer)
  | char letter => some (flags.padText [letter])
  | text letters => some (flags.padText letters.toList)
  | absent => none
  | present _ => none
  | tuple slots =>
    (displaySlots? flags slots).map fun parts => ['('] ++ Layout.commaSeparated parts ++ [')']

/-- The form for users of every slot. -/
def displaySlots? (flags : Flags) {n : Nat} : Tuple Value n → Option (List (List Char))
  | .nil => some []
  | .cons head tail =>
    match display? flags head, displaySlots? flags tail with
    | some first, some rest => some (first :: rest)
    | _, _ => none

end

/-- The debug form without any wishes. -/
def plain (value : Value) : String :=
  String.ofList (debug {} value)

end Polyad.Value

namespace Polyad.Tuple

/-- The debug form of a tuple of values. -/
def debug (flags : Flags) {n : Nat} (t : Tuple Value n) : List Char :=
  (Value.tuple t).debug flags

/-- The form of a tuple for users. -/
def display? (flags : Flags) {n : Nat} (t : Tuple Value n) : Option (List Char) :=
  (Value.tuple t).display? flags

end Polyad.Tuple
