import Polyad.Family.Template
/-!
Operations on one slot, for every slot: replace it, drop it, and transform it
by a function that is there or that may be missing. The types of a result and
its values are edited in the same place.
-/

namespace Polyad.Template

open Code

/-- What a function that takes some arguments once gives. -/
def function (inputs : List Ty) (output : Ty) : Ty :=
  .callable .once inputs output

/-- The function in an optional argument, or else the fault that names it. -/
def demand (t : Template) (operation argument : String) : Stmt :=
  .bind argument (.unwrapped (.method (.var argument) "ok_or"
    [.call (.path (t.path ["TupleError", "missing"])) [.text operation, .text argument]]))

/-- The documentation of the checked twin of an operation. -/
def twinDoc (t : Template) (operation : String) : String :=
  "Like [`" ++ operation ++ "`](Self::" ++ operation ++
    "), for a function that may be missing.\n\n# Errors\n\n[`TupleError::InvalidArgument`](" ++
    t.link ++ "::TupleError::InvalidArgument) if `f` is `None`."

/-- The types of the slots with one of them replaced. Positions count from
    zero. -/
def typesWith (t : Template) (k : Nat) : List Ty :=
  t.types.set k (.param "U")

@[simp] theorem length_typesWith (t : Template) (k : Nat) : (t.typesWith k).length = t.arity := by
  simp [typesWith]

/-- Replace a slot. -/
def setSlot (t : Template) (k : Nat) : Method where
  notes := [.doc ("Replace the " ++ ordinalWord (k + 1) ++ " element, possibly with a value of " ++
    "another type, keeping every other element as it is.")]
  name := numberedName "update" (k + 1)
  generics := ["U"]
  receiver := some .owned
  params := [(.name "value", .param "U")]
  result := .tuple (t.typesWith k)
  body := yield (.tuple (t.slots.set k (.var "value")))

/-- Drop a slot. -/
def eraseSlot (t : Template) (k : Nat) : Method where
  notes := [.doc ("Drop the " ++ ordinalWord (k + 1) ++
    " element. The elements after it each move down one position.")]
  name := numberedName "remove" (k + 1)
  receiver := some .owned
  result := .tuple (t.types.eraseIdx k)
  body := yield (.tuple (t.slots.eraseIdx k))

/-- Transform a slot. -/
def mapSlot (t : Template) (k : Nat) : Method where
  notes := [.doc ("Transform the " ++ ordinalWord (k + 1) ++
    " element with `f`, keeping every other element as it is.")]
  name := numberedName "map" (k + 1)
  generics := ["U", "F"]
  receiver := some .owned
  params := [(.name "f", .param "F")]
  result := .tuple (t.typesWith k)
  bounds := [("F", function [.param (numberedName "T" (k + 1))] (.param "U"))]
  body := yield (.tuple
    (t.slots.set k (.call (.var "f") [.slot (numberedName "t" (k + 1))])))

/-- Transform a slot by a function that may be missing. -/
def tryMapSlot (t : Template) (k : Nat) : Method where
  notes := [.doc (t.twinDoc (numberedName "map" (k + 1)))]
  name := numberedName "try_map" (k + 1)
  generics := ["U", "F"]
  receiver := some .owned
  params := [(.name "f", .option (.param "F"))]
  trailing := true
  result := .result (.tuple (t.typesWith k)) t.fault
  bounds := [("F", function [.param (numberedName "T" (k + 1))] (.param "U"))]
  body :=
    { stmts := [t.demand (numberedName "map" (k + 1)) "f"]
      result := .ok (.method .self (numberedName "map" (k + 1)) [.var "f"]) }

/-- The operations on every slot. -/
def slotItem (t : Template) : Item :=
  .methods (Param.free t.params) t.type
    ((List.range t.arity).flatMap fun k => [t.setSlot k, t.eraseSlot k, t.mapSlot k, t.tryMapSlot k])

end Polyad.Template
