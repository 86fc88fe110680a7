import Polyad.Family.Template
/-!
The type itself and what it takes to make a tuple and to read one: a
constructor, a reader for each slot, the two forms of all slots at once, the
tuple with every slot empty, and the arity.
-/

namespace Polyad.Template

open Code

/-- The type, with a slot for each parameter. -/
def typeItem (t : Template) : Item :=
  let doc :=
    if t.arity = 0 then
      "The tuple of no elements.\n\nIt carries no data, so every value is interchangeable " ++
      "with every other; [`Tuple0::instance`] hands out the one shared value."
    else
      "An immutable tuple of " ++ toString t.arity ++ " independently typed elements.\n\n" ++
      "Slots are read through accessors and never written: every operation that changes a " ++
      "slot consumes the tuple and returns a new one."
  .definition
    [.doc doc, .derive ["Clone", "Copy", "PartialEq", "Eq", "PartialOrd", "Ord", "Hash", "Default"]]
    (t.fields.zip t.params)

/-- The constructor. -/
def buildAll (t : Template) : Method where
  notes := [.doc ("Construct a " ++ toString t.arity ++ "-tuple from its elements, in order.")]
  access := .constant
  name := "of"
  params := (t.fields.map .name).zip t.types
  result := .self
  body := yield (.tupleOfVars t.arity)

/-- The reader of the slot with a number. -/
def readSlot (number : Nat) : Method where
  notes := [.doc ("The " ++ ordinalWord number ++ " element.")]
  name := numberedName "t" number
  receiver := some .borrowed
  result := .ref (.param (numberedName "T" number))
  body := yield (.ref (.slot (numberedName "t" number)))

/-- All slots as a tuple of the language. -/
def unwrapAll (t : Template) : Method where
  notes := [.docLine "Unwrap into the equivalent native Rust tuple."]
  name := "into_inner"
  receiver := some .owned
  result := .native t.types
  body := yield (.native t.slots)

/-- All slots, borrowed. -/
def borrowAll (t : Template) : Method where
  notes := [.docLine "Borrow every element at once, without consuming this tuple."]
  name := "as_ref"
  receiver := some .borrowed
  result := .tuple (t.types.map .ref)
  body := yield (.tuple (t.slots.map .ref))

/-- The numbers of the slots. -/
def numbers (t : Template) : List Nat :=
  (List.range t.arity).map (· + 1)

/-- Making a tuple and reading it. -/
def accessItem (t : Template) : Item :=
  .methods (Param.free t.params) t.type
    ([t.buildAll] ++ t.numbers.map readSlot ++ [t.unwrapAll, t.borrowAll])

/-- The tuple with every slot empty. -/
def emptyTuple (t : Template) : Method where
  notes := [.docLine "A tuple whose every slot holds `None`."]
  access := .constant
  name := "empty"
  result := .self
  body := yield (.tuple (List.replicate t.arity .none))

/-- Emptiness, which takes a slot. -/
def emptyItems (t : Template) : List Item :=
  if t.arity = 0 then [] else
    [.methods (Param.free t.params) (.tuple (t.types.map .option)) [t.emptyTuple]]

/-- What makes the type one of the family, and its arity. -/
def membershipItems (t : Template) : List Item :=
  [.implementation [] (Param.free t.params) (.path (t.path ["tuple", "sealed", "Sealed"]) [])
      t.type [],
    .implementation [] (Param.free t.params) (.path (t.path ["tuple", "Tuple"]) [])
      t.type [.number "ARITY" t.arity]]

end Polyad.Template
