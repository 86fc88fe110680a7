import Polyad.Family.Access
import Polyad.Family.Native
import Polyad.Family.Texts
import Polyad.Family.TestData
import Polyad.Family.Orders
import Polyad.Family.Whole
import Polyad.Family.Joining
/-!
Everything that is generated for one arity, and for a whole family: the
constant that names its ceiling and then every arity up to it.
-/

namespace Polyad

namespace Template

open Code

/-- The items that do not depend on the ceiling. -/
def fixedItems (t : Template) : List Item :=
  [t.typeItem, t.accessItem] ++ t.emptyItems ++ t.membershipItems ++ t.nativeItems ++
    [t.displayItem, t.debugItem, t.testDataItem] ++ t.orderItems ++ [t.slotItem, t.wholeItem]

/-- Every item for one arity. The arity may not exceed the ceiling. -/
def items (t : Template) : Except Overflow (List Item) :=
  t.joinItems.map fun joins => t.fixedItems ++ t.pushItems ++ joins

/-- Every item for an arity that does not exceed the ceiling. -/
def boundedItems (t : Template) : List Item :=
  t.fixedItems ++ t.pushItems ++ (List.range (t.ceiling - t.arity + 1)).map t.joinItem

theorem items_eq (t : Template) (hceiling : t.arity ≤ t.ceiling) :
    t.items = .ok t.boundedItems := by
  rw [items, t.joinItems_eq hceiling]
  rfl

end Template

namespace Family

open Code

/-- The constant that names the ceiling. -/
def ceilingItem (ceiling : Nat) : Item :=
  .maxArity [.doc ("The largest supported arity. There is no tuple type above `" ++
    tupleName ceiling ++ "`.")] ceiling

/-- Every item of the family with a ceiling. -/
def items (home : List Token) (ceiling : Nat) : Except Overflow (List Item) := do
  let arities ← (List.range (ceiling + 1)).mapM fun arity =>
    (Template.mk arity ceiling home).items
  return ceilingItem ceiling :: arities.flatten

end Family

end Polyad
