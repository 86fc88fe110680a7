import Polyad.Lexical.Alphabet
import Polyad.Text.Escape
/-!
Identifiers: read from a text, and made from a name that has to be one.
-/

namespace Polyad.Identifier

/-- The identifier at the front of a text, and what follows it. -/
def read? : List Char → Option (List Char × List Char)
  | [] => none
  | c :: rest =>
    if Alphabet.isStart c then
      some (c :: rest.takeWhile Alphabet.isContinue, rest.dropWhile Alphabet.isContinue)
    else none

/-- Whether the text goes on with a character of an identifier. -/
def continues : List Char → Bool
  | [] => false
  | c :: _ => Alphabet.isContinue c

/-- What follows an identifier, if one comes next. -/
def skip (cs : List Char) : List Char :=
  match read? cs with
  | some (_, rest) => rest
  | none => cs

/-- Names that stay keywords even where they are marked as raw. -/
def neverRaw (name : List Char) : Bool :=
  name ∈ ["_".toList, "super".toList, "self".toList, "Self".toList, "crate".toList]

/-- Marks in front of which a text is no identifier but a broken literal. -/
def literalMarks : List (List Char) :=
  ["r\"", "r#\"", "r##", "b\"", "b'", "br\"", "br#", "c\"", "cr\"", "cr#"].map String.toList

/-- What follows an identifier that may be marked as raw. -/
def readAny? : List Char → Option (List Char)
  | 'r' :: '#' :: rest =>
    match read? rest with
    | some (name, rest) => if neverRaw name then none else some rest
    | none => none
  | cs => (read? cs).map Prod.snd

/-- Why a name is no identifier. -/
inductive Error where
  | empty
  | number
  | malformed (name : List Char)
  | reserved (name : List Char)
  deriving DecidableEq, Repr

/-- The sentence shown to a user. -/
def Error.message : Error → String
  | empty => "Ident is not allowed to be empty; use Option<Ident>"
  | number => "Ident cannot be a number; use Literal instead"
  | malformed name => String.ofList (Escape.quoted name) ++ " is not a valid Ident"
  | reserved name => "`r#" ++ String.ofList name ++ "` cannot be a raw identifier"

/-- A name that has to be an identifier. -/
def ofName (name : List Char) : Except Error (List Char) :=
  match name with
  | [] => .error .empty
  | c :: rest =>
    if name.all Char.isDigit then .error .number
    else if Alphabet.isStart c && rest.all Alphabet.isContinue then .ok name
    else .error (.malformed name)

/-- A name that has to be an identifier, which may be marked as raw. -/
def ofMarkedName : List Char → Except Error (List Char)
  | 'r' :: '#' :: name =>
    match ofName name with
    | .error reason => .error reason
    | .ok name => if neverRaw name then .error (.reserved name) else .ok ('r' :: '#' :: name)
  | name => ofName name

end Polyad.Identifier
