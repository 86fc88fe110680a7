import Polyad.Fault
import Polyad.Packed
import Polyad.Value.Basic
/-!
What values feed to a hash function. A tuple feeds its slots in order and
nothing of its own, so nesting leaves no mark; a packed tuple feeds its arity
first.
-/

namespace Polyad

/-- One write to a hash function. -/
inductive Write where
  /-- A signed integer of 64 bits. -/
  | number (value : Int64)
  | byte (value : UInt8)
  /-- A code point. -/
  | letter (value : UInt32)
  /-- Bytes in a row, whose number is not written. -/
  | bytes (values : List UInt8)
  /-- Which of several alternatives follows. -/
  | variant (index : Nat)
  deriving DecidableEq, Repr

namespace Write

/-- Two hexadecimal digits. -/
def hexByte (value : UInt8) : List Char :=
  [Nat.digitChar (value.toNat / 16), Nat.digitChar (value.toNat % 16)]

/-- A write in words: its type and what is written. -/
def render : Write → String
  | number value => "i64:" ++ toString value.toInt
  | byte value => "u8:" ++ toString value.toNat
  | letter value => "u32:" ++ toString value.toNat
  | bytes values => "bytes:" ++ String.ofList (values.flatMap hexByte)
  | variant index => "isize:" ++ toString index

/-- A text is written as its bytes and an end mark that no text contains. -/
def text (letters : String) : List Write :=
  [bytes letters.toUTF8.data.toList, byte 255]

/-- A machine word of 64 bits is written as its bytes, the lowest first. -/
def word (value : Nat) : Write :=
  bytes ((List.range 8).map fun k => UInt8.ofNat (value >>> (8 * k)))

end Write

namespace Value

mutual

/-- What a value writes. -/
def writes : Value → List Write
  | int number => [.number number]
  | bool answer => [.byte (if answer then 1 else 0)]
  | char letter => [.letter letter.val]
  | text letters => Write.text letters
  | absent => [.variant 0]
  | present inner => .variant 1 :: writes inner
  | tuple slots => slotWrites slots

/-- What the slots of a tuple write. -/
def slotWrites {n : Nat} : Tuple Value n → List Write
  | .nil => []
  | .cons head tail => writes head ++ slotWrites tail

end

end Value

/-- What a tuple of values writes. -/
def Tuple.writes {n : Nat} (t : Tuple Value n) : List Write :=
  Value.slotWrites t

/-- What a packed tuple writes. -/
def Packed.writes (t : Packed Value) : List Write :=
  .variant t.arity :: t.slots.writes

/-- What a refusal writes. -/
def Fault.writes : Fault → List Write
  | missing operation argument => .variant 0 :: (Write.text operation ++ Write.text argument)
  | unsupported operation arity limit =>
    .variant 1 :: (Write.text operation ++ [Write.word arity, Write.word limit])

end Polyad
