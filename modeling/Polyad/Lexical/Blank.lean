/-!
What stands between lexemes without being one: white space and comments.
Comments in delimiters nest. A comment of documentation is not blank.
-/

namespace Polyad.Blank

/-- White space by its Unicode property, and the two marks of direction. -/
def isSpace (c : Char) : Bool :=
  let point := c.toNat
  (9 ≤ point && point ≤ 13) || point == 0x20 || point == 0x85 || point == 0xa0 ||
    point == 0x1680 || (0x2000 ≤ point && point ≤ 0x200a) || point == 0x200e ||
    point == 0x200f || point == 0x2028 || point == 0x2029 || point == 0x202f ||
    point == 0x205f || point == 0x3000

/-- What follows the end of a comment that is `depth` comments deep. -/
def closeComment : Nat → List Char → Option (List Char)
  | depth, '/' :: '*' :: rest => closeComment (depth + 1) rest
  | 0, '*' :: '/' :: rest => some rest
  | depth + 1, '*' :: '/' :: rest => closeComment depth rest
  | depth, _ :: rest => closeComment depth rest
  | _, [] => none

/-- What follows the line. -/
def dropLine (cs : List Char) : List Char :=
  cs.dropWhile fun c => c != '\n'

/-- Drop one comment or one space. -/
def drop? : List Char → Option (List Char)
  | '/' :: '/' :: '!' :: _ => none
  | '/' :: '/' :: '/' :: '/' :: rest => some (dropLine rest)
  | '/' :: '/' :: '/' :: _ => none
  | '/' :: '/' :: rest => some (dropLine rest)
  | '/' :: '*' :: '*' :: '/' :: rest => some rest
  | '/' :: '*' :: '!' :: _ => none
  | '/' :: '*' :: '*' :: '*' :: rest => closeComment 0 ('*' :: '*' :: rest)
  | '/' :: '*' :: '*' :: _ => none
  | '/' :: '*' :: rest => closeComment 0 rest
  | c :: rest => if isSpace c then some rest else none
  | [] => none

/-- Whether a carriage return stands without the line feed that belongs to it. -/
def hasBareReturn : List Char → Bool
  | '\r' :: '\n' :: rest => hasBareReturn rest
  | '\r' :: _ => true
  | _ :: rest => hasBareReturn rest
  | [] => false

/-- The line and what follows it. The carriage return of its end belongs to
    neither the line nor its text. -/
def splitLine : List Char → List Char × List Char
  | [] => ([], [])
  | '\n' :: rest => ([], '\n' :: rest)
  | '\r' :: '\n' :: rest => ([], '\n' :: rest)
  | c :: rest => (c :: (splitLine rest).1, (splitLine rest).2)

/-- What follows a line of documentation. -/
def documentLine? (cs : List Char) : Option (List Char) :=
  let (line, rest) := splitLine cs
  if hasBareReturn line then none else some rest

/-- What follows documentation in delimiters, from behind its mark. -/
def documentBlock? (cs : List Char) : Option (List Char) :=
  match closeComment 0 cs with
  | none => none
  | some rest =>
    if hasBareReturn (cs.take (cs.length - rest.length - 2)) then none else some rest

/-- What follows a comment of documentation. -/
def document? : List Char → Option (List Char)
  | '/' :: '/' :: '!' :: rest => documentLine? rest
  | '/' :: '/' :: '/' :: '/' :: _ => none
  | '/' :: '/' :: '/' :: rest => documentLine? rest
  | '/' :: '*' :: '!' :: rest => documentBlock? rest
  | '/' :: '*' :: '*' :: '*' :: _ => none
  | '/' :: '*' :: '*' :: rest => documentBlock? rest
  | _ => none

end Polyad.Blank
