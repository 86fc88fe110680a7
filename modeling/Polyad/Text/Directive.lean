import Polyad.Text.Flags
/-!
Reading a format directive: braces around an optional colon and the wishes in
their fixed order, which are fill and alignment, sign, alternate form, zeros,
width, precision and the kind of output. A width or a precision is a number or
the name of an argument followed by a dollar sign.
-/

namespace Polyad.Directive

/-- The alignment that a character asks for. -/
def alignment? : Char → Option Alignment
  | '<' => some .left
  | '^' => some .center
  | '>' => some .right
  | _ => none

/-- Fill and alignment. Any character before an alignment is the fill. -/
def readAlignment (flags : Flags) : List Char → Flags × List Char
  | fill :: c :: rest =>
    match alignment? c with
    | some alignment => ({ flags with fill, alignment := some alignment }, rest)
    | none =>
      match alignment? fill with
      | some alignment => ({ flags with alignment := some alignment }, c :: rest)
      | none => (flags, fill :: c :: rest)
  | [c] =>
    match alignment? c with
    | some alignment => ({ flags with alignment := some alignment }, [])
    | none => (flags, [c])
  | [] => (flags, [])

/-- A character that may stand next. -/
def readOptional (wanted : Char) : List Char → Bool × List Char
  | [] => (false, [])
  | c :: rest => if c = wanted then (true, rest) else (false, c :: rest)

/-- A count: digits, or a name and a dollar sign. -/
def readCount (argument : String → Option Nat) (cs : List Char) : Option Nat × List Char :=
  let name := cs.takeWhile Char.isAlphanum
  match cs.drop name.length with
  | '$' :: rest => (argument (String.ofList name), rest)
  | rest =>
    let digits := cs.takeWhile Char.isDigit
    if digits = [] then (none, cs)
    else if name = digits then ((String.ofList digits).toNat?, rest)
    else ((String.ofList digits).toNat?, cs.drop digits.length)

/-- The kind of output that ends a directive. -/
def readKind (flags : Flags) : List Char → Option Directive
  | [] => some ⟨flags, false⟩
  | ['?'] => some ⟨flags, true⟩
  | ['x', '?'] => some ⟨{ flags with hexadecimal := some .lower }, true⟩
  | ['X', '?'] => some ⟨{ flags with hexadecimal := some .upper }, true⟩
  | _ => none

/-- The wishes after the colon. -/
def readWishes (argument : String → Option Nat) (cs : List Char) : Option Directive :=
  let (flags, cs) := readAlignment {} cs
  let (plus, cs) := readOptional '+' cs
  let (_, cs) := readOptional '-' cs
  let (alternate, cs) := readOptional '#' cs
  let (zero, cs) := readOptional '0' cs
  let (width, cs) := readCount argument cs
  let (precise, cs) := readOptional '.' cs
  let (precision, cs) := if precise then readCount argument cs else (none, cs)
  readKind { flags with plus, alternate, zero, width, precision } cs

/-- Read a directive, given the values of its named arguments. -/
def read (argument : String → Option Nat) (spec : List Char) : Option Directive :=
  match spec with
  | '\x7b' :: rest =>
    match rest.reverse with
    | '\x7d' :: inner =>
      match inner.reverse with
      | [] => some ⟨{}, false⟩
      | ':' :: wishes => readWishes argument wishes
      | _ => none
    | _ => none
  | _ => none

end Polyad.Directive
