import Polyad.Lexical.Identifier
import Polyad.Lexical.Quoted
/-!
Literals of numbers. An integer has a base, digits that may be parted by
underscores, and any identifier as a suffix, which says nothing about its
value. What has a point or an exponent is no integer.
-/

namespace Polyad.Number

/-- The base of an integer, and its digits with all that follows. -/
def base : List Char → Nat × List Char
  | '0' :: 'x' :: rest => (16, rest)
  | '0' :: 'o' :: rest => (8, rest)
  | '0' :: 'b' :: rest => (2, rest)
  | cs => (10, cs)

/-- The value of some digits, and what follows them. `value` is that of the
    digits so far, if there were any. A decimal digit that the base lacks makes
    the number malformed, a letter that it lacks ends it. -/
def digits? (base : Nat) (value : Option Nat) : List Char → Option (Nat × List Char)
  | [] => value.map fun value => (value, [])
  | c :: rest =>
    if c = '_' then
      if value = none ∧ base = 10 then none else digits? base value rest
    else
      match Quoted.hexValue? c with
      | some digit =>
        if digit < base then digits? base (some (value.getD 0 * base + digit)) rest
        else if c.isDigit then none
        else value.map fun value => (value, c :: rest)
      | none => value.map fun value => (value, c :: rest)

/-- What follows a suffix, if the literal ends there. -/
def end? (cs : List Char) : Option (List Char) :=
  let rest := Identifier.skip cs
  if Identifier.continues rest then none else some rest

/-- The value of an integer, and what follows it. -/
def integer? (cs : List Char) : Option (Nat × List Char) :=
  let (base, cs) := base cs
  match digits? base none cs with
  | none => none
  | some (value, rest) => (end? rest).map fun rest => (value, rest)

/-- Digits of a number with a point or an exponent, and underscores. -/
def isDigit (c : Char) : Bool :=
  c.isDigit || c == '_'

/-- What follows an exponent, from behind its letter. There is none without a
    digit. -/
def exponent? (signed digits : Bool) : List Char → Option (List Char)
  | [] => if digits then some [] else none
  | c :: rest =>
    if c.isDigit then exponent? signed true rest
    else if c = '_' then exponent? signed digits rest
    else if c = '+' ∨ c = '-' then
      if digits then some (c :: rest)
      else if signed then none
      else exponent? true digits rest
    else if digits then some (c :: rest) else none

/-- What follows the digits of a number that is no integer. A point that a
    second one or an identifier follows does not belong to the number, nor does
    an exponent without digits. -/
def fraction? (cs : List Char) : Option (List Char) :=
  match cs with
  | [] => none
  | first :: _ =>
    if !first.isDigit then none else
      match cs.dropWhile isDigit with
      | '.' :: rest =>
        match rest with
        | '.' :: _ => none
        | _ =>
          if (Identifier.read? rest).isSome then none else
            match rest.dropWhile isDigit with
            | 'e' :: behind => some ((exponent? false false behind).getD ('e' :: behind))
            | 'E' :: behind => some ((exponent? false false behind).getD ('E' :: behind))
            | rest => some rest
      | 'e' :: behind => exponent? false false behind
      | 'E' :: behind => exponent? false false behind
      | _ => none

/-- What follows a number that is no integer. -/
def decimal? (cs : List Char) : Option (List Char) :=
  (fraction? cs).bind end?

end Polyad.Number
