import Polyad.Overflow
import Polyad.Code.Name
/-!
The program text that tests the laws of the family at every arity: it is made
of sample tuples of consecutive numbers, on which every law is spelled out.
-/

namespace Polyad

/-- A tuple of `arity` consecutive numbers from `start` on. -/
structure Sample where
  arity : Nat
  start : Nat
  deriving DecidableEq, Repr

namespace Sample

/-- Texts with a comma between any two neighbours. -/
def commas (texts : List String) : String :=
  ", ".intercalate texts

/-- The type of a sample. -/
def type (s : Sample) : String :=
  if s.arity = 0 then Code.tupleName 0
  else Code.tupleName s.arity ++ "<" ++ commas (List.replicate s.arity "u32") ++ ">"

/-- The numbers of a sample, as far as they are words. -/
def numbers (s : Sample) : Except Overflow (List Nat) :=
  (List.range s.arity).mapM (addWords s.start)

/-- The text of a sample. -/
def render (s : Sample) : Except Overflow String :=
  s.numbers.map fun numbers =>
    Code.tupleName s.arity ++ "::of(" ++
      commas (numbers.map fun number => toString number ++ "u32") ++ ")"

/-- The debug form of a sample. -/
def debug (s : Sample) : String :=
  "Sample \x7b arity: " ++ toString s.arity ++ ", start: " ++ toString s.start ++ " \x7d"

end Sample

namespace LawTests

/-- The ceiling of the family that is tested. -/
def ceiling : Nat := 7

/-- An assertion that two expressions are equal. -/
def equation (left right : String) : String :=
  "    assert_eq!(" ++ left ++ ", " ++ right ++ ");"

/-- A test with a name and its assertions. -/
def test (name : String) (assertions : List String) : List String :=
  ["#[test]", "fn " ++ name ++ "() \x7b"] ++ assertions ++ ["\x7d"]

/-- The arities up to the ceiling. -/
def arities : List Nat :=
  List.range (ceiling + 1)

/-- Every arity belongs to the family and is counted right. -/
def arityLines (n : Nat) : Except Overflow (List String) := do
  let sample ← (Sample.mk n 0).render
  return ["    assert_impl_all!(" ++ (Sample.mk n 0).type ++ ": Tuple, Send, Sync, Copy);",
    equation (sample ++ ".arity()") (toString n)]

/-- Two samples that are joined make one, whether or not the second is there. -/
def joinLines (n m : Nat) : Except Overflow (List String) := do
  let left ← (Sample.mk n 0).render
  let right ← (Sample.mk m n).render
  let joined ← (Sample.mk (n + m) 0).render
  return [equation (left ++ ".concat(" ++ right ++ ")") joined,
    equation (left ++ ".concat_opt(None::<" ++ (Sample.mk m n).type ++ ">).arity()")
      (toString (n + m))]

/-- A slot that is dropped takes its replacement with it, and a slot that is
    mapped to itself stays. -/
def slotLines (n k : Nat) : Except Overflow (List String) := do
  let sample ← (Sample.mk n 0).render
  let k := toString k
  return [equation (sample ++ ".update" ++ k ++ "(\"new\").remove" ++ k ++ "()")
      (sample ++ ".remove" ++ k ++ "()"),
    equation (sample ++ ".map" ++ k ++ "(|v| v).t" ++ k ++ "()") (sample ++ ".t" ++ k ++ "()")]

/-- What maps every slot to itself, or builds a tuple from its own slots,
    changes nothing. -/
def wholeLines (n : Nat) : Except Overflow (List String) := do
  let sample ← (Sample.mk n 0).render
  let identities := Sample.commas (List.replicate n "|v: u32| v")
  return [equation (sample ++ ".map_each(" ++ identities ++ ")") sample,
    equation (sample ++ ".apply(" ++ Code.tupleName n ++ "::of)") sample,
    equation (sample ++ ".map(" ++ Code.tupleName n ++ "::of)") sample]

/-- The lines of the program text. -/
def lines : Except Overflow (List String) := do
  let arity ← arities.mapM arityLines
  let join ← (arities.flatMap fun n =>
    (List.range (ceiling - n + 1)).map fun m => (n, m)).mapM fun pair => joinLines pair.1 pair.2
  let slot ← (arities.flatMap fun n =>
    (List.range n).map fun k => (n, k + 1)).mapM fun pair => slotLines pair.1 pair.2
  let whole ← arities.mapM wholeLines
  return ["#[allow(unused_imports)] use crate::prelude::*;", "use static_assertions::assert_impl_all;",
      ""] ++
    test "every_arity_is_a_tuple" arity.flatten ++ [""] ++
    test "concat_adds_arities_in_order" join.flatten ++ [""] ++
    test "update_then_remove_forgets_the_update" slot.flatten ++ [""] ++
    test "whole_tuple_identities" whole.flatten

/-- The program text, each line with its end. -/
def text : Except Overflow String :=
  lines.map fun lines => String.join (lines.map fun line => line ++ "\n")

/-- The name of the file that holds the program text. -/
def fileName : String := "arity_laws.rs"

/-- The variable of the environment that names the directory of the file. -/
def directoryVariable : String := "OUT_DIR"

/-- What is reported before anything else is done. -/
def announcement : String := "cargo:rerun-if-changed=build.rs\n"

/-- What is found where the program text is to be written. -/
inductive Target where
  /-- No place was named. -/
  | unset
  /-- The place does not exist. -/
  | missing
  /-- The place is no directory. -/
  | notDirectory
  /-- A directory stands where the file should be. -/
  | blocked
  /-- A directory that may hold an earlier file, which is replaced whole. -/
  | directory
  deriving DecidableEq, Repr

/-- Why the program text was not written. -/
inductive WriteError where
  | unset | missing | notDirectory | blocked
  deriving DecidableEq, Repr

namespace WriteError

/-- The name of the kind of error. -/
def kind : WriteError → String
  | unset => "VarError"
  | missing => "NotFound"
  | notDirectory => "NotADirectory"
  | blocked => "IsADirectory"

/-- The sentence shown to a user. -/
def message : WriteError → String
  | unset => "environment variable not found"
  | missing => "No such file or directory (os error 2)"
  | notDirectory => "Not a directory (os error 20)"
  | blocked => "Is a directory (os error 21)"

end WriteError

/-- Whether the file can be written at a place. -/
def Target.open? : Target → Except WriteError Unit
  | unset => .error .unset
  | missing => .error .missing
  | notDirectory => .error .notDirectory
  | blocked => .error .blocked
  | directory => .ok ()

end LawTests

end Polyad
