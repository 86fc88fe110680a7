import Polyad.Lexical.Identifier
/-!
Literals between quotes: texts, texts of bytes, texts that end with a zero
byte, and single letters. Each is recognised by a machine that reads one
character at a time. A suffix may follow a literal.
-/

namespace Polyad.Quoted

/-- The kinds of text between quotes. -/
inductive Flavour where
  /-- Any characters. -/
  | text
  /-- ASCII characters and bytes. -/
  | bytes
  /-- Any characters but zero, which ends the text. -/
  | terminated
  deriving DecidableEq, Repr

/-- Characters that may stand in a text as they are. -/
def Flavour.admits : Flavour → Char → Bool
  | text, _ => true
  | bytes, c => c.toNat < 0x80
  | terminated, c => c != '\x00'

/-- Where in a text the machine is. -/
inductive State where
  | plain
  /-- Behind a carriage return, which only a line feed may follow. -/
  | afterReturn
  /-- Behind a backslash. -/
  | escape
  /-- Before the first digit of a byte. -/
  | highDigit
  /-- Before the second digit of a byte, whose first was `high`. -/
  | lowDigit (high : Nat)
  /-- Before the brace of a code point. -/
  | point
  /-- Behind some digits of a code point. -/
  | pointDigits (count value : Nat)
  /-- In the white space that a backslash at the end of a line skips. -/
  | skipping (afterReturn : Bool)
  deriving DecidableEq, Repr

/-- What a character does to the machine. -/
inductive Move where
  | next (state : State)
  | close
  | reject
  deriving DecidableEq, Repr

/-- The value of a hexadecimal digit. -/
def hexValue? (c : Char) : Option Nat :=
  if c.isDigit then some (c.toNat - '0'.toNat)
  else if 'a' ≤ c ∧ c ≤ 'f' then some (c.toNat - 'a'.toNat + 10)
  else if 'A' ≤ c ∧ c ≤ 'F' then some (c.toNat - 'A'.toNat + 10)
  else none

/-- A character where it stands for itself. -/
def plainMove (flavour : Flavour) (c : Char) : Move :=
  if c = '"' then .close
  else if c = '\r' then .next .afterReturn
  else if c = '\\' then .next .escape
  else if flavour.admits c then .next .plain
  else .reject

/-- A character behind a backslash. -/
def escapeMove (flavour : Flavour) (c : Char) : Move :=
  if c = 'x' then .next .highDigit
  else if c ∈ ['n', 'r', 't', '\\', '\'', '"'] then .next .plain
  else if c = '0' then (if flavour = .terminated then .reject else .next .plain)
  else if c = 'u' then (if flavour = .bytes then .reject else .next .point)
  else if c = '\n' then .next (.skipping false)
  else if c = '\r' then .next (.skipping true)
  else .reject

/-- A character among the digits of a code point. -/
def pointMove (flavour : Flavour) (count value : Nat) (c : Char) : Move :=
  match hexValue? c with
  | some digit =>
    if count = 6 then .reject else .next (.pointDigits (count + 1) (value * 16 + digit))
  | none =>
    if count = 0 then .reject
    else if c = '_' then .next (.pointDigits count value)
    else if c = '\x7d' ∧ value.isValidChar ∧ (value ≠ 0 ∨ flavour ≠ .terminated) then .next .plain
    else .reject

/-- One move of the machine. -/
def move (flavour : Flavour) (state : State) (c : Char) : Move :=
  match state with
  | .plain => plainMove flavour c
  | .afterReturn => if c = '\n' then .next .plain else .reject
  | .escape => escapeMove flavour c
  | .highDigit =>
    match hexValue? c with
    | some digit => if flavour = .text ∧ 7 < digit then .reject else .next (.lowDigit digit)
    | none => .reject
  | .lowDigit high =>
    match hexValue? c with
    | some digit =>
      if flavour = .terminated ∧ high = 0 ∧ digit = 0 then .reject else .next .plain
    | none => .reject
  | .point => if c = '\x7b' then .next (.pointDigits 0 0) else .reject
  | .pointDigits count value => pointMove flavour count value c
  | .skipping true => if c = '\n' then .next (.skipping false) else .reject
  | .skipping false =>
    if c = '\r' then .next (.skipping true)
    else if c ∈ [' ', '\t', '\n'] then .next (.skipping false)
    else plainMove flavour c

/-- What follows the closing quote of a text. -/
def close? (flavour : Flavour) (state : State) : List Char → Option (List Char)
  | [] => none
  | c :: rest =>
    match move flavour state c with
    | .next state => close? flavour state rest
    | .close => some rest
    | .reject => none

/-- What follows the closing quote of a raw text, which as many marks follow
    as stood before the opening one. -/
def closeRaw? (flavour : Flavour) (marks : Nat) : List Char → Option (List Char)
  | [] => none
  | '"' :: rest =>
    if rest.take marks = List.replicate marks '#' then some (rest.drop marks)
    else closeRaw? flavour marks rest
  | '\r' :: '\n' :: rest => closeRaw? flavour marks rest
  | '\r' :: _ => none
  | c :: rest => if flavour.admits c then closeRaw? flavour marks rest else none

/-- What follows a raw text, from its marks on. -/
def raw? (flavour : Flavour) (cs : List Char) : Option (List Char) :=
  let marks := (cs.takeWhile fun c => c == '#').length
  match cs.drop marks with
  | '"' :: rest => if marks ≤ 255 then closeRaw? flavour marks rest else none
  | _ => none

/-- What follows an escape in a letter, from behind the backslash. -/
def closeEscape? (flavour : Flavour) (state : State) : List Char → Option (List Char)
  | [] => none
  | c :: rest =>
    match move flavour state c with
    | .next .plain => some rest
    | .next (.skipping _) => none
    | .next state => closeEscape? flavour state rest
    | _ => none

/-- What follows a letter, from behind its opening quote. -/
def letter? (flavour : Flavour) (cs : List Char) : Option (List Char) :=
  let rest :=
    match cs with
    | [] => none
    | '\\' :: rest => closeEscape? flavour .escape rest
    | c :: rest => if flavour.admits c then some rest else none
  match rest with
  | some ('\'' :: rest) => some rest
  | _ => none

/-- What follows a text or a letter that is known to any reader. -/
def known? : List Char → Option (List Char)
  | '"' :: rest => close? .text .plain rest
  | '\'' :: rest => letter? .text rest
  | 'r' :: rest => raw? .text rest
  | 'b' :: '"' :: rest => close? .bytes .plain rest
  | 'b' :: '\'' :: rest => letter? .bytes rest
  | 'b' :: 'r' :: rest => raw? .bytes rest
  | _ => none

/-- What follows a text that ends with a zero byte. -/
def terminated? : List Char → Option (List Char)
  | 'c' :: '"' :: rest => close? .terminated .plain rest
  | 'c' :: 'r' :: rest => raw? .terminated rest
  | _ => none

end Polyad.Quoted
