import Polyad.Packed
import Polyad.Value.Text
/-!
Functions and folds that can be asked for by name. A function gives a value
that it is not about back unchanged.
-/

namespace Polyad.Value

/-- Functions of one value. -/
inductive Function where
  | identity
  | add (number : Int64)
  | multiply (number : Int64)
  | negate
  | not
  /-- The debug form as a text. -/
  | shown
  | kind
  | length
  /-- Make an optional value of it. -/
  | optional
  /-- The value inside an optional one. -/
  | unwrap
  /-- The value beside itself in a pair. -/
  | duplicate
  /-- The value alone in a tuple. -/
  | wrap
  /-- The value beside another in a pair. -/
  | pair (second : Value)
  | constant (result : Value)

/-- What a function gives. Integers wrap around at 64 bits. -/
def Function.call : Function → Value → Value
  | add number, int a => int (a + number)
  | multiply number, int a => int (a * number)
  | negate, int a => int (-a)
  | not, bool answer => bool !answer
  | shown, value => text value.plain
  | kind, value => text value.kind.name
  | length, value => int (Int64.ofNat value.length)
  | optional, value => present value
  | unwrap, present inner => inner
  | duplicate, value => ofSlots [value, value]
  | wrap, value => ofSlots [value]
  | pair second, value => ofSlots [value, second]
  | constant result, _ => result
  | _, value => value

/-- The integers among some values. -/
def numbers (values : List Value) : List Int64 :=
  values.filterMap fun value =>
    match value with
    | int number => some number
    | _ => none

/-- Ways to fold the slots of a tuple into one value. -/
inductive Fold where
  | sum
  /-- The first integer less all the later ones. -/
  | subtract
  | count
  | reverse
  /-- The debug forms with a bar between them. -/
  | join
  deriving DecidableEq, Repr

/-- What a fold gives. Slots that are no integers do not count in a sum or a
    difference. -/
def Fold.run : Fold → List Value → Value
  | sum, values => int ((numbers values).foldl (· + ·) 0)
  | subtract, values =>
    match numbers values with
    | [] => int 0
    | first :: later => int (later.foldl (· - ·) first)
  | count, values => int (Int64.ofNat values.length)
  | reverse, values => ofSlots values.reverse
  | join, values => text ("|".intercalate (values.map plain))

/-- Where a slot of a rebuilt tuple comes from. Slots are numbered from one. -/
inductive Source where
  | slot (number : Nat) (function : Function)
  | constant (value : Value)

/-- The value that a source gives at an arity, if its slot is there. -/
def Source.read? (n : Nat) : Source → Option (Tuple Value n → Value)
  | slot number function =>
    (Tuple.slot? n number).map fun k slots => function.call (slots.get k)
  | constant value => some fun _ => value

/-- The function that fills each slot of a new tuple from a source. There is
    none at an arity that lacks a slot it reads, or for too many slots. -/
def rebuild? (sources : List Source) (n : Nat) : Option (Tuple Value n → Packed Value) :=
  match sources.mapM (Source.read? n) with
  | none => none
  | some reads =>
    if h : reads.length ≤ maxArity then
      some fun slots => ⟨_, (Tuple.ofList reads).map fun read => read slots, h⟩
    else none

end Polyad.Value
