import Polyad.LawTests
/-!
The program that writes the tests of the laws into a directory named by the
environment.
-/

open Polyad

/-- Write the program text, and report what stood in the way if anything did. -/
def main : IO UInt32 := do
  IO.print LawTests.announcement
  match ← IO.getEnv LawTests.directoryVariable with
  | none =>
    IO.eprintln LawTests.WriteError.unset.message
    return 1
  | some directory =>
    match LawTests.text with
    | .ok text =>
      IO.FS.writeFile (directory ++ "/" ++ LawTests.fileName) text
      return 0
    | .error overflow =>
      IO.eprintln overflow.message
      return 1
