import Polyad.Code.Token
import Polyad.Lexical.Identifier
/-!
Where generated code finds the family: in the package itself, under the name
that the package gives to its dependency, or under its usual name.
-/

namespace Polyad

/-- The name of the package that the family belongs to. -/
def familyPackage : String := "polytuple"

/-- A dependency: the name it goes by, and the package it is, if that has
    another name. -/
structure Dependency where
  key : String
  package : Option String
  deriving DecidableEq, Repr

/-- The package that a dependency is. -/
def Dependency.packageName (d : Dependency) : String :=
  d.package.getD d.key

/-- What a package tells about itself. -/
structure Manifest where
  package : Option String
  dependencies : List Dependency
  devDependencies : List Dependency
  targetDependencies : List Dependency
  deriving DecidableEq, Repr

namespace Manifest

/-- No two dependencies in one table go by the same name. -/
def readable (m : Manifest) : Bool :=
  [m.dependencies, m.devDependencies, m.targetDependencies].all fun table =>
    decide (table.map Dependency.key).Nodup

/-- The dependency on the package of the family. Of several the last one
    counts. -/
def find? (m : Manifest) : Option Dependency :=
  (m.dependencies ++ m.devDependencies ++ m.targetDependencies).reverse.find? fun d =>
    d.packageName == familyPackage

/-- Where the family is, seen from a package. -/
inductive Home where
  /-- In the package itself. -/
  | here
  /-- In a dependency that goes by this name. -/
  | dependency (key : String)
  /-- Wherever its usual name leads. -/
  | usual
  deriving DecidableEq, Repr

/-- Where the family is. A package that tells nothing about itself is taken to
    know the family by its usual name. -/
def home : Option Manifest → Home
  | none => .usual
  | some m =>
    if !m.readable then .usual
    else if m.package = some familyPackage then .here
    else
      match m.find? with
      | some d => .dependency d.key
      | none => .usual

/-- The path to the family. Hyphens in a name are written as
    underscores, and what comes of it has to be an identifier. -/
def Home.path : Home → Except Identifier.Error (List Code.Token)
  | here => .ok (Code.words ["crate"])
  | dependency key =>
    (Identifier.ofName (key.toList.map fun c => if c = '-' then '_' else c)).map fun name =>
      Code.words ["::", String.ofList name]
  | usual => .ok (Code.words ["::", familyPackage])

end Manifest

end Polyad
