import Polyad.Code.Token
/-!
The names that the generated code gives to its types, slots and parameters,
and the two shapes that are built from them: the type of a tuple and the
literal of a tuple.
-/

namespace Polyad.Code

/-- The name of the type of tuples with `n` slots. -/
def tupleName (n : Nat) : String :=
  "Tuple" ++ toString n

/-- A stem and a number behind it. -/
def numberedName (stem : String) (number : Nat) : String :=
  stem ++ toString number

/-- Names with one stem, numbered from one to `count`. -/
def series (stem : String) (count : Nat) : List String :=
  (List.range count).map fun k => numberedName stem (k + 1)

@[simp] theorem length_series (stem : String) (count : Nat) :
    (series stem count).length = count := by
  simp [series]

/-- Parameters with the same bound on every one. -/
def bounded (names : List String) (bound : List Token) : List (List Token) :=
  names.map fun name => [.word name, .word ":"] ++ bound

/-- The type of tuples with the given types of slots. -/
def tupleShape (args : List (List Token)) : List Token :=
  .word (tupleName args.length) :: angled args

/-- Every value behind the name of its slot. -/
def labelled (values : List (List Token)) : List (List Token) :=
  List.zipWith (fun name value => [.word name, .word ":"] ++ value)
    (series "t" values.length) values

/-- The literal of a tuple with the given values. -/
def literalShape (values : List (List Token)) : List Token :=
  .word (tupleName values.length) :: braced (separated (labelled values))

/-- The ordinal of a slot in English, in words as far as the twelfth. -/
def ordinalWord (number : Nat) : String :=
  let words := ["first", "second", "third", "fourth", "fifth", "sixth", "seventh", "eighth",
    "ninth", "tenth", "eleventh", "twelfth"]
  if number = 0 then "0th" else words.getD (number - 1) (toString number ++ "th")

end Polyad.Code
