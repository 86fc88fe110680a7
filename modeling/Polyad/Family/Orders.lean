import Polyad.Family.Template
/-!
Orders on tuples: one built from a comparison of each slot, and the natural
one. Both go from the first slot to the first that decides.
-/

namespace Polyad.Template

open Code

/-- A chain of comparisons, each of which is made only if all before it found
    no difference. -/
def chain (comparisons : List Expr) : Expr :=
  comparisons.foldl (fun e comparison => .method e "then_with" [.deferred comparison])
    (.known ["core", "cmp", "Ordering", "Equal"])

/-- The same slot of two tuples, borrowed. -/
def slotPair (field : String) : List Expr :=
  [.ref (.field (.var "a") field), .ref (.field (.var "b") field)]

/-- What can compare two values of a type. -/
def comparison (type : Ty) : Ty :=
  .callable .many [.ref type, .ref type] .ordering

/-- The order built from a comparison of each slot. -/
def comparatorMethod (t : Template) : Method where
  notes :=
    [.doc ("Build an ordering on " ++ toString t.arity ++ "-tuples from one comparison per " ++
        "slot.\n\nThe returned function compares the first slots with `c1`, returning its " ++
        "result unless it is `Equal`, then the second slots with `c2`, and so on; tuples " ++
        "whose every slot compares equal are `Equal`."),
      .allow "unused_variables"]
  name := "comparator"
  generics := series "C" t.arity
  params := ((series "c" t.arity).map .name).zip ((series "C" t.arity).map .param)
  result := .some (comparison .self)
  bounds := (series "C" t.arity).zip (t.types.map comparison)
  body := yield (.comparing (chain
    (List.zipWith (fun c field => .call (.var c) (slotPair field)) (series "c" t.arity) t.fields)))

/-- The natural order. -/
def naturalMethod (t : Template) : Method where
  notes :=
    [.docLine "Compare two tuples slot by slot in the natural order of each slot, stopping at",
      .docLine "the first slot that differs.", .docLine "",
      .docLine "This agrees with the derived `Ord`.", .allow "unused_variables"]
  name := "compare"
  params := [(.name "a", .ref .self), (.name "b", .ref .self)]
  result := .ordering
  body := yield (chain
    (t.fields.map fun field => .call (.known ["core", "cmp", "Ord", "cmp"]) (slotPair field)))

/-- Both orders. -/
def orderItems (t : Template) : List Item :=
  [.methods (Param.free t.params) t.type [t.comparatorMethod],
    .methods (Param.bounded t.params (.known ["core", "cmp", "Ord"])) t.type [t.naturalMethod]]

end Polyad.Template
