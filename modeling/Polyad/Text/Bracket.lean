/-!
Brackets, which enclose what belongs together.
-/

namespace Polyad

/-- Brackets of one shape. -/
inductive Bracket where
  | round | square | curly
  deriving DecidableEq, Repr

namespace Bracket

/-- The shape of a bracket at its opening. -/
def opening? (c : Char) : Option Bracket :=
  match c with
  | '(' => some round
  | '[' => some square
  | '\x7b' => some curly
  | _ => none

/-- The shape of a bracket at its closing. -/
def closing? (c : Char) : Option Bracket :=
  match c with
  | ')' => some round
  | ']' => some square
  | '\x7d' => some curly
  | _ => none

/-- A text between brackets. Only curly ones keep spaces inside. -/
def enclose (bracket : Bracket) (text : String) : String :=
  match bracket with
  | round => "(" ++ text ++ ")"
  | square => "[" ++ text ++ "]"
  | curly => if text = "" then "\x7b \x7d" else "\x7b " ++ text ++ " \x7d"

end Bracket

end Polyad
