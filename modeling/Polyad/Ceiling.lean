import Polyad.Lexical.Lexeme
import Polyad.Overflow
import Polyad.Text.Layout
/-!
The ceiling of a family: read from a text, which is one integer and perhaps a
comma behind it, and checked against what can be generated.
-/

namespace Polyad.Ceiling

/-- The largest ceiling that a family can be generated for. -/
def limit : Nat := 8

/-- Why a text gives no ceiling. -/
inductive ReadError where
  /-- The text has no lexemes. -/
  | lexical
  /-- The text is empty. -/
  | nothing
  | notInteger
  /-- A minus sign stands before the integer. -/
  | negative
  | tooLarge
  /-- Something follows the integer and its comma. -/
  | trailing
  /-- The text starts with a literal that stops the reader. -/
  | unknownLiteral (text : List Char)
  deriving DecidableEq, Repr

/-- The sentence shown to a user. -/
def ReadError.message : ReadError → String
  | lexical => "lex error"
  | nothing => "unexpected end of input, expected integer literal"
  | notInteger => "expected integer literal"
  | negative => "invalid digit found in string"
  | tooLarge => "number too large to fit in target type"
  | trailing => "expected nothing after the arity ceiling"
  | unknownLiteral text => "Unrecognized literal: `" ++ String.ofList text ++ "`"

/-- Whether an error is a failure of the reader, not of the text alone. -/
def ReadError.stops : ReadError → Bool
  | unknownLiteral _ => true
  | _ => false

/-- The ceiling that some lexemes stand for. The integer is looked at before
    what follows it. -/
def ofLexemes : List Lexeme → Except ReadError Nat
  | [] => .error .nothing
  | .integer value :: rest =>
    if value < wordCount then
      if rest = [] ∨ rest = [.operator ','] then .ok value else .error .trailing
    else .error .tooLarge
  | .operator '-' :: .integer _ :: _ => .error .negative
  | .rareLiteral text :: _ => .error (.unknownLiteral text)
  | _ => .error .notInteger

/-- Read a ceiling. -/
def read (text : List Char) : Except ReadError Nat :=
  match Lexeme.ofText? text with
  | some lexemes => ofLexemes lexemes
  | none => .error .lexical

/-- Why a family cannot be generated. -/
inductive Error where
  /-- A family of nothing but the empty tuple. -/
  | zero
  | tooLarge (ceiling : Nat)
  deriving DecidableEq, Repr

namespace Error

/-- The name of the kind of error. -/
def kind : Error → String
  | zero => "ZeroCeiling"
  | tooLarge _ => "CeilingTooLarge"

/-- The sentence shown to a user. -/
def message : Error → String
  | zero => "the arity ceiling must be at least 1"
  | tooLarge ceiling =>
    "the arity ceiling " ++ toString ceiling ++ " exceeds the generator limit of " ++
      toString limit

/-- The debug form. -/
def debug : Error → List Char
  | zero => zero.kind.toList
  | tooLarge ceiling =>
    Layout.record false (tooLarge ceiling).kind.toList
      [("ceiling".toList, (toString ceiling).toList), ("limit".toList, (toString limit).toList)]

end Error

/-- A ceiling that a family can be generated for. -/
def check (ceiling : Nat) : Except Error Nat :=
  if ceiling = 0 then .error .zero
  else if limit < ceiling then .error (.tooLarge ceiling)
  else .ok ceiling

end Polyad.Ceiling
