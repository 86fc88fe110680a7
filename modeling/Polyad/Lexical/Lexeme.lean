import Polyad.Lexical.Blank
import Polyad.Lexical.Number
import Polyad.Text.Bracket
/-!
The lexemes of a text. A text has lexemes if every part of it can be read and
its brackets are balanced.
-/

namespace Polyad

/-- A part of a text that means something by itself. -/
inductive Lexeme where
  | integer (value : Nat)
  /-- Another literal that any reader knows. -/
  | literal
  /-- A literal that not every reader knows. -/
  | rareLiteral (text : List Char)
  | operator (c : Char)
  | identifier
  /-- A comment of documentation. -/
  | documentation
  | opening (bracket : Bracket)
  | closing (bracket : Bracket)
  deriving DecidableEq, Repr

namespace Lexeme

/-- The characters of operators. -/
def operators : List Char :=
  "~!@#$%^&*-=+|;:,<.>/?".toList

/-- What stands where something could not be read before. It is a literal. -/
def errorMark : List Char :=
  "(/*ERROR*/)".toList

/-- A literal, and what follows it. -/
def literal? (cs : List Char) : Option (Lexeme × List Char) :=
  match Quoted.known? cs with
  | some rest => some (.literal, Identifier.skip rest)
  | none =>
    match Quoted.terminated? cs with
    | some rest =>
      let rest := Identifier.skip rest
      some (.rareLiteral (cs.take (cs.length - rest.length)), rest)
    | none =>
      match Number.decimal? cs with
      | some rest => some (.literal, rest)
      | none => (Number.integer? cs).map fun (value, rest) => (.integer value, rest)

/-- The quote of a lifetime, which an identifier follows that no further quote
    or mark follows. The identifier is a lexeme of its own. -/
def lifetime? (rest : List Char) : Option (Lexeme × List Char) :=
  match Identifier.readAny? rest with
  | none => none
  | some behind =>
    match behind with
    | '\'' :: _ => none
    | '#' :: _ => if "r#".toList.isPrefixOf rest then some (.operator '\'', rest) else none
    | _ => some (.operator '\'', rest)

/-- An operator, and what follows it. The start of a comment is none. -/
def operator? : List Char → Option (Lexeme × List Char)
  | '/' :: '/' :: _ => none
  | '/' :: '*' :: _ => none
  | '\'' :: rest => lifetime? rest
  | c :: rest => if c ∈ operators then some (.operator c, rest) else none
  | [] => none

/-- An identifier, and what follows it. -/
def identifier? (cs : List Char) : Option (Lexeme × List Char) :=
  if Identifier.literalMarks.any fun mark => mark.isPrefixOf cs then none
  else (Identifier.readAny? cs).map fun rest => (.identifier, rest)

/-- The lexeme at the front of a text, and what follows it. -/
def read? (cs : List Char) : Option (Lexeme × List Char) :=
  match Blank.document? cs with
  | some rest => some (.documentation, rest)
  | none =>
    match cs with
    | [] => none
    | c :: rest =>
      if errorMark.isPrefixOf cs then some (.rareLiteral errorMark, cs.drop errorMark.length)
      else
        match Bracket.opening? c, Bracket.closing? c with
        | some bracket, _ => some (.opening bracket, rest)
        | none, some bracket => some (.closing bracket, rest)
        | none, none =>
          (literal? cs).orElse fun _ => (operator? cs).orElse fun _ => identifier? cs

/-- Whether brackets close in the order in which they opened. `stack` holds
    those that are open, the last one first. -/
def balanced : List Bracket → List Lexeme → Bool
  | [], [] => true
  | _ :: _, [] => false
  | stack, .opening bracket :: rest => balanced (bracket :: stack) rest
  | [], .closing _ :: _ => false
  | last :: stack, .closing bracket :: rest => last == bracket && balanced stack rest
  | stack, _ :: rest => balanced stack rest

/-- Whether what follows a lexeme is joined to it. That is so for operators in
    a row, and for the quote of a lifetime and its identifier. -/
def joins (rest : List Char) : Lexeme → Bool
  | operator c => c == '\'' || (operator? rest).isSome
  | _ => false

end Lexeme

/-- A lexeme as it is spelled, and whether the next one is joined to it. -/
structure Spelling where
  lexeme : Lexeme
  text : String
  joined : Bool
  deriving DecidableEq, Repr

namespace Lexeme

/-- The lexemes of a text whose brackets need not be balanced. -/
def readAll? (cs : List Char) : Option (List Spelling) :=
  if cs = [] then some []
  else
    match Blank.drop? cs with
    | some rest => if _h : rest.length < cs.length then readAll? rest else none
    | none =>
      match read? cs with
      | some (lexeme, rest) =>
        if _h : rest.length < cs.length then
          let text := String.ofList (cs.take (cs.length - rest.length))
          (readAll? rest).map (⟨lexeme, text, lexeme.joins rest⟩ :: ·)
        else none
      | none => none
termination_by cs.length

/-- The lexemes of a text. A mark of byte order at its front is skipped. -/
def ofText? (text : List Char) : Option (List Lexeme) :=
  let cs :=
    match text with
    | '\ufeff' :: rest => rest
    | cs => cs
  match readAll? cs with
  | some spellings =>
    let lexemes := spellings.map Spelling.lexeme
    if balanced [] lexemes then some lexemes else none
  | none => none

end Lexeme

end Polyad
