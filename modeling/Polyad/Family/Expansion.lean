import Polyad.Ceiling
import Polyad.Family.Items
import Polyad.Manifest
/-!
The family with a ceiling, as a package asks for it.
-/

namespace Polyad.Family

/-- Why there is no family. -/
inductive Failure where
  | ceiling (reason : Ceiling.Error)
  /-- What the package calls the family is no identifier. -/
  | home (reason : Identifier.Error)
  | overflow (reason : Overflow)
  deriving DecidableEq, Repr

/-- Every item of the family for a package. The ceiling is checked before the manifest of
    the package is looked at. -/
def expand (manifest : Option Manifest) (ceiling : Nat) : Except Failure (List Code.Item) := do
  let ceiling ← (Ceiling.check ceiling).mapError .ceiling
  let home ← (Manifest.home manifest).path.mapError .home
  (items home ceiling).mapError .overflow

end Polyad.Family
