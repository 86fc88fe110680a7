import Polyad.Family.Slots
/-!
Operations on all slots at once: into another tuple, each slot by a function
of its own, and into a single value. Each has a twin for functions that may be
missing, which looks for all of them before it calls any.
-/

namespace Polyad.Template

open Code

/-- Which results the operations on all slots have. -/
def member (t : Template) : Ty :=
  .path (t.path ["tuple", "Tuple"]) []

/-- Into another tuple. -/
def mapAll (t : Template) : Method where
  notes :=
    [.docLine "Transform the whole tuple at once into another tuple, of this arity or any",
      .docLine "other, by passing every element to `f` in order."]
  name := "map"
  generics := ["R", "F"]
  receiver := some .owned
  params := [(.name "f", .param "F")]
  result := .param "R"
  bounds := [("F", function t.types (.param "R")), ("R", t.member)]
  body := yield (.call (.var "f") t.slots)

/-- The checked twin of `mapAll`. -/
def tryMapAll (t : Template) : Method where
  notes := [.doc (t.twinDoc "map")]
  name := "try_map"
  generics := ["R", "F"]
  receiver := some .owned
  params := [(.name "f", .option (.param "F"))]
  trailing := true
  result := .result (.param "R") t.fault
  bounds := [("F", function t.types (.param "R")), ("R", t.member)]
  body :=
    { stmts := [t.demand "map" "f"]
      result := .ok (.method .self "map" [.var "f"]) }

/-- The parameters of the operations that take a function for each slot. -/
def eachGenerics (t : Template) : List String :=
  series "U" t.arity ++ series "F" t.arity

/-- The types of the results of a function for each slot. -/
def eachTypes (t : Template) : List Ty :=
  (series "U" t.arity).map .param

@[simp] theorem length_eachTypes (t : Template) : t.eachTypes.length = t.arity := by
  simp [eachTypes]

/-- What the functions for the slots have to be. -/
def eachBounds (t : Template) : List (String × Ty) :=
  (series "F" t.arity).zip
    (List.zipWith (fun input output => function [input] output) t.types t.eachTypes)

/-- Each slot by a function of its own. -/
def mapEach (t : Template) : Method where
  notes :=
    [.docLine "Transform every element with its own function: the first element with `f1`,",
      .docLine "the second with `f2`, and so on."]
  name := "map_each"
  generics := t.eachGenerics
  receiver := some .owned
  params := ((series "f" t.arity).map .name).zip ((series "F" t.arity).map .param)
  trailing := t.arity = 0
  result := .tuple t.eachTypes
  bounds := t.eachBounds
  body := yield (.tuple
    (List.zipWith (fun f slot => .call (.var f) [slot]) (series "f" t.arity) t.slots))

/-- The checked twin of `mapEach`. -/
def tryMapEach (t : Template) : Method where
  notes :=
    [.doc ("Like [`map_each`](Self::map_each), for functions that may be missing.\n\nEvery " ++
      "function is checked before any of them is called, so a missing function means none of " ++
      "them runs.\n\n# Errors\n\n[`TupleError::InvalidArgument`](" ++ t.link ++
      "::TupleError::InvalidArgument) naming the first function that is `None`.")]
  name := "try_map_each"
  generics := t.eachGenerics
  receiver := some .owned
  params := ((series "f" t.arity).map .name).zip
    ((series "F" t.arity).map fun f => .option (.param f))
  trailing := t.arity = 0
  result := .result (.tuple t.eachTypes) t.fault
  bounds := t.eachBounds
  body :=
    { stmts := (series "f" t.arity).map (t.demand "map_each")
      result := .ok (.method .self "map_each" ((series "f" t.arity).map .var)) }

/-- Into a single value. -/
def applyAll (t : Template) : Method where
  notes :=
    [.docLine "Fold the tuple into a single value by passing every element to `f` in order."]
  name := "apply"
  generics := ["R", "F"]
  receiver := some .owned
  params := [(.name "f", .param "F")]
  result := .param "R"
  bounds := [("F", function t.types (.param "R"))]
  body := yield (.call (.var "f") t.slots)

/-- The checked twin of `applyAll`. -/
def tryApplyAll (t : Template) : Method where
  notes := [.doc (t.twinDoc "apply")]
  name := "try_apply"
  generics := ["R", "F"]
  receiver := some .owned
  params := [(.name "f", .option (.param "F"))]
  trailing := true
  result := .result (.param "R") t.fault
  bounds := [("F", function t.types (.param "R"))]
  body :=
    { stmts := [t.demand "apply" "f"]
      result := .ok (.method .self "apply" [.var "f"]) }

/-- The operations on all slots. -/
def wholeItem (t : Template) : Item :=
  .methods (Param.free t.params) t.type
    [t.mapAll, t.tryMapAll, t.mapEach, t.tryMapEach, t.applyAll, t.tryApplyAll]

end Polyad.Template
