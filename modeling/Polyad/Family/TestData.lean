import Polyad.Family.Template
/-!
Tuples as test data, drawn and made smaller by way of the tuples of the
language.
-/

namespace Polyad.Template

open Code

/-- The trait of test data. -/
def testTrait : Path :=
  .absolute ["quickcheck", "Arbitrary"]

/-- Drawing a tuple from the generator `g`. -/
def drawMethod (t : Template) : Method where
  access := .trait
  name := "arbitrary"
  params := [(.name "g", .refMut (.path (.absolute ["quickcheck", "Gen"]) []))]
  result := .self
  body := yield (.call (.ofSelf "from")
    [.call (.ofTrait (.native t.types) testTrait "arbitrary") [.var "g"]])

/-- The smaller tuples. -/
def shrinkMethod : Method where
  access := .trait
  name := "shrink"
  receiver := some .borrowed
  result := .iterator .self
  body :=
    { stmts := [.bind "inner" (.method (.call (.known ["core", "clone", "Clone", "clone"]) [.self])
        "into_inner" [])]
      result := .call (.known ["std", "boxed", "Box", "new"])
        [.method (.call (.known ["quickcheck", "Arbitrary", "shrink"]) [.ref (.var "inner")]) "map"
          [.ofSelf "from"]] }

/-- Test data, where it is asked for. -/
def testDataItem (t : Template) : Item :=
  .implementation [.feature "quickcheck"] (Param.bounded t.params (.path testTrait []))
    (.path testTrait []) t.type [.method t.drawMethod, .method shrinkMethod]

end Polyad.Template
