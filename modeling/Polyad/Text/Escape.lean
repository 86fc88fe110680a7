import Polyad.Text.Shape
/-!
Letters and texts between quotes. Inside them the quote itself, the backslash
and the characters without a shape of their own are written as escapes, and
every other character as itself.
-/

namespace Polyad.Escape

/-- The code point in braces. -/
def codePoint (c : Char) : List Char :=
  ['\\', 'u', '\x7b'] ++ Nat.toDigits 16 c.toNat ++ ['\x7d']

/-- One character between quotes of the given kind. -/
def char (quote c : Char) : List Char :=
  if c = '\x00' then ['\\', '0']
  else if c = '\t' then ['\\', 't']
  else if c = '\n' then ['\\', 'n']
  else if c = '\r' then ['\\', 'r']
  else if c = '\\' then ['\\', '\\']
  else if c = quote then ['\\', quote]
  else if Shape.isPlain c then [c]
  else codePoint c

/-- A text in double quotes. -/
def quoted (text : List Char) : List Char :=
  ['"'] ++ text.flatMap (char '"') ++ ['"']

/-- A letter in single quotes. -/
def quotedLetter (c : Char) : List Char :=
  ['\''] ++ char '\'' c ++ ['\'']

/-- Whether a text goes on with a digit below eight. -/
def startsOctal : List Char → Bool
  | [] => false
  | c :: _ => '0' ≤ c && c ≤ '7'

/-- The inside of a literal. The escape of zero is not to be taken for that of
    another code point, so before some digits it is written at full length. -/
def literalBody : List Char → List Char
  | [] => []
  | c :: rest =>
    (if c = '\x00' ∧ startsOctal rest = true then ['\\', 'x', '0', '0'] else char '"' c) ++
      literalBody rest

/-- The literal of a text. -/
def literal (text : List Char) : List Char :=
  ['"'] ++ literalBody text ++ ['"']

end Polyad.Escape
