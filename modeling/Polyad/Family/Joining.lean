import Polyad.Overflow
import Polyad.Family.Template
/-!
Growth into larger arities, by one slot or by all those of another tuple.
Nothing is generated whose result would have more slots than the ceiling.
-/

namespace Polyad.Template

open Code

/-- Grow by one slot at the front. -/
def pushFront (t : Template) : Method where
  notes := [.docLine
    "Grow by one element at the front. Every existing element moves up one position."]
  name := "prepend"
  generics := ["V"]
  receiver := some .owned
  params := [(.name "value", .param "V")]
  result := .tuple (.param "V" :: t.types)
  body := yield (.tuple (.var "value" :: t.slots))

/-- Grow by one slot at the back. -/
def pushBack (t : Template) : Method where
  notes := [.docLine
    "Grow by one element at the back. Every existing element keeps its position."]
  name := "append"
  generics := ["V"]
  receiver := some .owned
  params := [(.name "value", .param "V")]
  result := .tuple (t.types ++ [.param "V"])
  body := yield (.tuple (t.slots ++ [.var "value"]))

/-- Growth by one slot, below the ceiling. -/
def pushItems (t : Template) : List Item :=
  if t.ceiling ≤ t.arity then [] else
    [.methods (Param.free t.params) t.type [t.pushFront, t.pushBack]]

/-- The types of the slots of a tuple on the right. -/
def rightTypes (m : Nat) : List Ty :=
  (series "U" m).map .param

@[simp] theorem length_rightTypes (m : Nat) : (rightTypes m).length = m := by
  simp [rightTypes]

/-- The slots of a tuple on the right. -/
def rightSlots (m : Nat) : List Expr :=
  (series "t" m).map (.field (.var "rhs"))

@[simp] theorem length_rightSlots (m : Nat) : (rightSlots m).length = m := by
  simp [rightSlots]

/-- What the tuple on the right is bound to, which is nothing if it has no
    slots to take. -/
def rightName (m : Nat) : String :=
  if m = 0 then "_" else "rhs"

/-- Join with a tuple of `m` slots. -/
def join (t : Template) (m : Nat) : Method where
  access := .trait
  name := "concat"
  receiver := some .owned
  params := [(if m = 0 then .ignored else .name "rhs", .tuple (rightTypes m))]
  result := .ofSelf "Output"
  body := yield (.tuple (t.slots ++ rightSlots m))

/-- Join with a tuple of `m` slots that may be missing. -/
def joinOptional (t : Template) (m : Nat) : Method where
  access := .trait
  name := "concat_opt"
  receiver := some .owned
  params := [(.name "rhs", .option (.tuple (rightTypes m)))]
  trailing := true
  result := .ofSelf "Padded"
  body := yield (.byPresence (.var "rhs") (rightName m)
    (.tuple (t.slots ++ (rightSlots m).map .some))
    (.tuple (t.slots ++ List.replicate m .none)))

/-- Joining with the tuples of `m` slots. -/
def joinItem (t : Template) (m : Nat) : Item :=
  .implementation [] (Param.free (t.params ++ series "U" m))
    (.path (t.path ["tuple", "Concat"]) [.tuple (rightTypes m)]) t.type
    [.type "Output" (.tuple (t.types ++ rightTypes m)),
      .type "Padded" (.tuple (t.types ++ (rightTypes m).map .option)),
      .method (t.join m), .method (t.joinOptional m)]

/-- Joining with every tuple that leaves the result within the ceiling. -/
def joinItems (t : Template) : Except Overflow (List Item) :=
  (subtractWords t.ceiling t.arity).map fun room =>
    (List.range (room + 1)).map t.joinItem

theorem joinItems_eq (t : Template) (hceiling : t.arity ≤ t.ceiling) :
    t.joinItems = .ok ((List.range (t.ceiling - t.arity + 1)).map t.joinItem) := by
  rw [joinItems, subtractWords, if_pos hceiling]
  rfl

end Polyad.Template
