/-!
What a format directive asks of the texts it is applied to: width, fill and
alignment, precision, sign, zeros, the spread-out form and hexadecimal digits.
-/

namespace Polyad

/-- Where a text stands in a wider field. -/
inductive Alignment where
  | left | center | right
  deriving DecidableEq, Repr

/-- Whether hexadecimal digits above nine are small or capital letters. -/
inductive LetterCase where
  | lower | upper
  deriving DecidableEq, Repr

/-- The wishes of a format directive. -/
structure Flags where
  fill : Char := ' '
  alignment : Option Alignment := none
  plus : Bool := false
  alternate : Bool := false
  zero : Bool := false
  width : Option Nat := none
  precision : Option Nat := none
  hexadecimal : Option LetterCase := none
  deriving DecidableEq, Repr

/-- A format directive: its wishes, and whether the debug form of a value is
    wanted or the one for users. -/
structure Directive where
  flags : Flags
  debug : Bool
  deriving DecidableEq, Repr

namespace Flags

/-- Fill a text up to the width. Centered texts lean to the left. -/
def align (flags : Flags) (default : Alignment) (text : List Char) : List Char :=
  let missing := flags.width.getD 0 - text.length
  match flags.alignment.getD default with
  | .left => text ++ List.replicate missing flags.fill
  | .right => List.replicate missing flags.fill ++ text
  | .center =>
    List.replicate (missing / 2) flags.fill ++ text ++
      List.replicate (missing - missing / 2) flags.fill

/-- The precision cuts a text off before it is aligned, to the left unless
    something else is asked for. -/
def padText (flags : Flags) (text : List Char) : List Char :=
  flags.align .left (match flags.precision with
    | some precision => text.take precision
    | none => text)

theorem padText_eq_self {flags : Flags} (hwidth : flags.width = none)
    (hprecision : flags.precision = none) (text : List Char) : flags.padText text = text := by
  cases halignment : flags.alignment with
  | none => simp [padText, align, hwidth, hprecision, halignment]
  | some side => cases side <;> simp [padText, align, hwidth, hprecision, halignment]

/-- A number aligned to the right unless something else is asked for. Zeros
    stand after the sign and the mark of the base, and leave no room for any
    fill. The mark appears in the alternate form only. -/
def padNumber (flags : Flags) (negative : Bool) (mark digits : List Char) : List Char :=
  let sign := if negative then ['-'] else if flags.plus then ['+'] else []
  let lead := sign ++ if flags.alternate then mark else []
  if flags.zero then
    lead ++ List.replicate (flags.width.getD 0 - (lead.length + digits.length)) '0' ++ digits
  else
    flags.align .right (lead ++ digits)

end Flags

end Polyad
