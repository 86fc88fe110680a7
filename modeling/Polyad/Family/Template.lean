import Polyad.Code.Item
/-!
The template of a family of tuple types at one arity: the names and types that
every part of it is built from.
-/

namespace Polyad

/-- Which member of a family is wanted. `home` is the path to where the family
    lives. -/
structure Template where
  arity : Nat
  ceiling : Nat
  home : List Code.Token

namespace Template

open Code

/-- The type parameters, one for each slot. -/
def params (t : Template) : List String :=
  series "T" t.arity

/-- The names of the slots. -/
def fields (t : Template) : List String :=
  series "t" t.arity

/-- The types of the slots. -/
def types (t : Template) : List Ty :=
  t.params.map .param

@[simp] theorem length_types (t : Template) : t.types.length = t.arity := by
  simp [types, params]

/-- The slots, moved out of the tuple. -/
def slots (t : Template) : List Expr :=
  t.fields.map .slot

@[simp] theorem length_slots (t : Template) : t.slots.length = t.arity := by
  simp [slots, fields]

/-- The type of the tuples of this arity. -/
def type (t : Template) : Ty :=
  .tuple t.types

/-- A path to something beside the family. -/
def path (t : Template) (segments : List String) : Path :=
  .below t.home segments

/-- The type of the faults of the family. -/
def fault (t : Template) : Ty :=
  .path (t.path ["TupleError"]) []

/-- The path to the family as it stands in documentation. -/
def link (t : Template) : String :=
  String.ofList ((printAll t.home).toList.filter fun c => c != ' ')

/-- A block without statements. -/
def yield (result : Expr) : Block :=
  { result }

end Template

end Polyad
