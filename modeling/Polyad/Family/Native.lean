import Polyad.Family.Template
/-!
Conversion between the tuples of the family and those of the language, in both
directions.
-/

namespace Polyad.Template

open Code

/-- What it takes to be made from another type. -/
def madeFrom (source : Ty) : Ty :=
  .path (.absolute ["core", "convert", "From"]) [source]

/-- From a tuple of the language. -/
def wrapNative (t : Template) : Method where
  access := .trait
  name := "from"
  params := [(.native t.fields, .native t.types)]
  result := .self
  body := yield (.tupleOfVars t.arity)

/-- To a tuple of the language. -/
def unwrapNative (t : Template) : Method where
  access := .trait
  name := "from"
  params := [(.name "tuple", t.type)]
  result := .self
  body := yield (.method (.var "tuple") "into_inner" [])

/-- Both conversions. -/
def nativeItems (t : Template) : List Item :=
  [.implementation [] (Param.free t.params) (madeFrom (.native t.types)) t.type
      [.method t.wrapNative],
    .implementation [] (Param.free t.params) (madeFrom t.type) (.native t.types)
      [.method t.unwrapNative]]

end Polyad.Template
