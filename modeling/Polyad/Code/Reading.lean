import Polyad.Code.Token
import Polyad.Lexical.Lexeme
/-!
Reading tokens back from their printed form. What is read prints as the text
that it was read from.
-/

namespace Polyad.Code

/-- Groups that are open, the last one first, each with the tokens in front of
    it from the last to the first. -/
abbrev OpenGroups : Type := List (Bracket × List Token)

/-- The tokens that some lexemes spell. `done` holds those of the innermost
    group so far, from the last to the first. -/
def nest? (groups : OpenGroups) (done : List Token) : List Spelling → Option (List Token)
  | [] => if groups.isEmpty then some done.reverse else none
  | spelling :: rest =>
    match spelling.lexeme, groups with
    | .opening bracket, groups => nest? ((bracket, done) :: groups) [] rest
    | .closing bracket, (last, before) :: groups =>
      if last = bracket then nest? groups (.group bracket done.reverse :: before) rest else none
    | .closing _, [] => none
    | _, groups =>
      let token : Token := if spelling.joined then .joined spelling.text else .word spelling.text
      nest? groups (token :: done) rest

/-- The tokens that a text is the printed form of. -/
def ofPrinted? (text : String) : Option (List Token) :=
  ((Lexeme.readAll? text.toList).bind (nest? [] [])).filter fun tokens => printAll tokens == text

theorem printAll_of_ofPrinted? {text : String} {tokens : List Token}
    (htokens : ofPrinted? text = some tokens) : printAll tokens = text := by
  obtain ⟨_, hprinted⟩ := Option.filter_eq_some_iff.mp htokens
  simpa using hprinted

/-- The tokens of a text that is meant to be in printed form. One that is not
    is taken for a single word. -/
def ofPrinted (text : String) : List Token :=
  (ofPrinted? text).getD [.word text]

/-- Reading loses nothing. -/
@[simp] theorem printAll_ofPrinted (text : String) : printAll (ofPrinted text) = text := by
  unfold ofPrinted
  cases htokens : ofPrinted? text with
  | none => simp [printAll, Token.print]
  | some tokens => exact printAll_of_ofPrinted? htokens

end Polyad.Code
