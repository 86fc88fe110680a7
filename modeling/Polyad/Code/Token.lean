import Polyad.Text.Bracket
/-!
Tokens of generated code and their printed form: neighbours are separated by
one space, and only a group in curly brackets keeps spaces inside them.
-/

namespace Polyad.Code

/-- A token. A word is a name, a literal or an operator that is written as
    one. What follows an operator that is joined has no space before it. -/
inductive Token where
  | word (text : String)
  | joined (text : String)
  | group (bracket : Bracket) (inner : List Token)

mutual

/-- The printed form of a token. -/
def Token.print : Token → String
  | .word text => text
  | .joined text => text
  | .group bracket inner => bracket.enclose (printAll inner)

/-- The printed form of tokens in a row. -/
def printAll : List Token → String
  | [] => ""
  | [token] => token.print
  | .joined text :: rest => text ++ printAll rest
  | token :: rest => token.print ++ " " ++ printAll rest

end

/-- A word for each text. -/
def words (texts : List String) : List Token :=
  texts.map .word

/-- Tokens in parentheses. -/
def parenthesized (inner : List Token) : List Token :=
  [.group .round inner]

/-- Tokens in curly brackets. -/
def braced (inner : List Token) : List Token :=
  [.group .curly inner]

/-- A comma between any two neighbours. -/
def separated : List (List Token) → List Token
  | [] => []
  | [part] => part
  | part :: rest => part ++ [.word ","] ++ separated rest

/-- A comma behind every part. -/
def terminated (parts : List (List Token)) : List Token :=
  parts.flatMap fun part => part ++ [.word ","]

/-- Arguments in angle brackets, or nothing at all when there are none. -/
def angled (args : List (List Token)) : List Token :=
  if args.isEmpty then [] else [.word "<"] ++ separated args ++ [.word ">"]

/-- Whether a token ends an item, if no group encloses it. -/
def Token.endsItem : Token → Bool
  | .word text | .joined text => text == ";"
  | .group bracket _ => bracket == .curly

/-- Tokens in a row, cut behind every token that ends an item. -/
def cut : List Token → List (List Token)
  | [] => []
  | token :: rest =>
    if token.endsItem then [token] :: cut rest
    else
      match cut rest with
      | [] => [[token]]
      | part :: parts => (token :: part) :: parts

/-- Nothing is lost where tokens are cut. -/
@[simp] theorem flatten_cut (tokens : List Token) : (cut tokens).flatten = tokens := by
  induction tokens with
  | nil => rfl
  | cons token rest ih =>
    by_cases hends : token.endsItem = true
    · simp [cut, hends, ih]
    · cases hcut : cut rest with
      | nil =>
        rw [hcut] at ih
        simpa [cut, hends, hcut] using ih
      | cons part parts =>
        rw [hcut] at ih
        simpa [cut, hends, hcut] using ih

end Polyad.Code
