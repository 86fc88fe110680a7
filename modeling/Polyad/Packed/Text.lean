import Polyad.Packed
import Polyad.Value.Text
/-!
The texts of packed tuples and of refusals. The debug form of a packed tuple
names its arity; the form for users is that of the tuple inside.
-/

namespace Polyad

namespace Packed

/-- The debug form, in which the tuple inside is the one part of its arity. -/
def debug (flags : Flags) (t : Packed Value) : List Char :=
  Layout.tuple flags.alternate (("Arity" ++ toString t.arity).toList) [t.slots.debug flags]

/-- The form for users, which a tuple with an optional value in it lacks. -/
def display? (flags : Flags) (t : Packed Value) : Option (List Char) :=
  t.slots.display? flags

/-- The text that a directive asks for, of the packed tuple or of the tuple
    inside. -/
def format? (directive : Directive) (wrapped : Bool) (t : Packed Value) : Option (List Char) :=
  if directive.debug then
    some (if wrapped then t.debug directive.flags else t.slots.debug directive.flags)
  else if wrapped then t.display? directive.flags
  else t.slots.display? directive.flags

end Packed

/-- The debug form of a refusal, in a row or spread out. -/
def Fault.debug (alternate : Bool) (fault : Fault) : List Char :=
  Layout.record alternate fault.kind.toList <|
    match fault with
    | missing operation argument =>
      [("operation".toList, Escape.quoted operation.toList),
        ("argument".toList, Escape.quoted argument.toList)]
    | unsupported operation arity limit =>
      [("operation".toList, Escape.quoted operation.toList),
        ("arity".toList, (toString arity).toList),
        ("limit".toList, (toString limit).toList)]

end Polyad
