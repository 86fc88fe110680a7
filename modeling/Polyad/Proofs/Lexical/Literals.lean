import Polyad.Lexical.Lexeme
import Polyad.Proofs.Lexical.Exponents
/-!
Integers among the lexemes. A text that begins with a digit begins with a number or
with nothing that can be read, and the number is an integer exactly if it is spelled
like one. The literals that not every reader knows are recognised by their beginning.
-/

namespace Polyad

namespace Number

/-- An integer as it is written. -/
structure Literal where
  base : Nat
  body : List Char
  suffix : List Char
  parts : Parts base body suffix
  whole : base = 10 → ¬ IsExponent suffix

namespace Literal

/-- The characters of an integer. -/
def text (l : Literal) : List Char :=
  mark l.base ++ (l.body ++ l.suffix)

/-- The number that an integer stands for. Underscores and the suffix say nothing about
    it, and the base is only the one in which it is written. -/
def value (l : Literal) : Nat :=
  numeral l.base l.body

theorem text_append (l : Literal) (rest : List Char) :
    l.text ++ rest = mark l.base ++ (l.body ++ (l.suffix ++ rest)) := by
  simp only [text, List.append_assoc]

theorem exists_text_eq_cons (l : Literal) :
    ∃ first tail, l.text = first :: tail ∧ first.isDigit = true := by
  by_cases hten : l.base = 10
  · have hdigits := l.parts.digits
    rw [hten] at hdigits
    obtain ⟨first, tail, hbody, hfirst⟩ := hdigits.exists_decimal_head
    exact ⟨first, tail ++ l.suffix, by rw [text, hten, hbody]; rfl, hfirst⟩
  · obtain ⟨letter, hletters, -⟩ := Number.exists_mark_eq (l.parts.base_mem_of_ne hten)
    exact ⟨'0', letter :: (l.body ++ l.suffix), by rw [text, hletters]; rfl, by decide⟩

end Literal

end Number

namespace Quoted

theorem known?_eq_none {cs : List Char} (hcs : ∀ c ∈ cs.head?, c ∉ ['"', '\'', 'r', 'b']) :
    known? cs = none := by
  unfold known?
  split
  case h_7 => rfl
  all_goals exact absurd (by decide) (hcs _ rfl)

theorem terminated?_eq_none {cs : List Char} (hcs : ∀ c ∈ cs.head?, c ≠ 'c') :
    terminated? cs = none := by
  unfold terminated?
  split
  case h_3 => rfl
  all_goals exact absurd rfl (hcs _ rfl)

end Quoted

namespace Lexeme

open Number (Literal Apart)

variable {lexeme : Lexeme} {first : Char} {cs rest : List Char}

section Origins

/-- What a lexeme at the front of a text says about the text. -/
inductive Origin (cs rest : List Char) : Lexeme → Prop
  | documentation : Origin cs rest .documentation
  | opening (bracket : Bracket) : Origin cs rest (.opening bracket)
  | closing (bracket : Bracket) : Origin cs rest (.closing bracket)
  | literal : Origin cs rest .literal
  | broken : errorMark <+: cs → Origin cs rest (.rareLiteral errorMark)
  | terminated (text : List Char) : (Quoted.terminated? cs).isSome = true →
      Origin cs rest (.rareLiteral text)
  | integer (n : Nat) : Number.decimal? cs = none → Number.integer? cs = some (n, rest) →
      Origin cs rest (.integer n)
  | operator (c : Char) : cs = c :: rest → Origin cs rest (.operator c)
  | identifier : Origin cs rest .identifier

theorem origin_of_literal? (hread : literal? cs = some (lexeme, rest)) :
    Origin cs rest lexeme := by
  simp only [literal?] at hread
  split at hread
  · cases hread
    exact .literal
  · split at hread
    · cases hread
      rename_i hterminated
      exact .terminated _ (by rw [hterminated]; rfl)
    · split at hread
      · cases hread
        exact .literal
      · rw [Option.map_eq_some_iff] at hread
        obtain ⟨⟨n, behind⟩, hinteger, hfound⟩ := hread
        cases hfound
        exact .integer n ‹_› hinteger

/-- An operator is one character, which is the quote for a lifetime. -/
theorem origin_of_operator? (hread : operator? cs = some (lexeme, rest)) :
    Origin cs rest lexeme := by
  unfold operator? at hread
  split at hread
  · cases hread
  · cases hread
  · rw [lifetime?] at hread
    split at hread
    · cases hread
    · split at hread
      · cases hread
      · rw [Option.ite_none_right_eq_some] at hread
        obtain ⟨-, hfound⟩ := hread
        cases hfound
        exact .operator _ rfl
      · cases hread
        exact .operator _ rfl
  · rw [Option.ite_none_right_eq_some] at hread
    obtain ⟨-, hfound⟩ := hread
    cases hfound
    exact .operator _ rfl
  · cases hread

theorem origin_of_read? (hread : read? cs = some (lexeme, rest)) : Origin cs rest lexeme := by
  unfold read? at hread
  split at hread
  · cases hread
    exact .documentation
  · split at hread
    · cases hread
    · split at hread
      · cases hread
        exact .broken (List.isPrefixOf_iff_prefix.mp ‹_›)
      · split at hread
        · cases hread
          exact .opening _
        · cases hread
          exact .closing _
        · rename_i c tail _ _ _ _ _ _
          have hread : (literal? (c :: tail) <|> operator? (c :: tail) <|> identifier? (c :: tail)) =
              some (lexeme, rest) := hread
          simp only [Option.orElse_eq_some] at hread
          obtain hliteral | ⟨-, hoperator | ⟨-, hidentifier⟩⟩ := hread
          · exact origin_of_literal? hliteral
          · exact origin_of_operator? hoperator
          · rw [identifier?, Option.ite_none_left_eq_some, Option.map_eq_some_iff] at hidentifier
            obtain ⟨-, behind, -, hfound⟩ := hidentifier
            cases hfound
            exact .identifier

end Origins

theorem document?_eq_none (hcs : ∀ c ∈ cs.head?, c ≠ '/') : Blank.document? cs = none := by
  unfold Blank.document?
  split
  all_goals first | exact absurd rfl (hcs '/' rfl) | rfl

theorem errorMark_eq : errorMark = '(' :: "/*ERROR*/)".toList := by decide

/-- What is no comment and no bracket is a literal, an operator or an identifier. -/
theorem read?_cons (hfirst : first ∉ ['/', '(', ')', '[', ']', '\x7b', '\x7d'])
    (cs : List Char) :
    read? (first :: cs) =
      (literal? (first :: cs)).orElse fun _ =>
        (operator? (first :: cs)).orElse fun _ => identifier? (first :: cs) := by
  simp only [List.mem_cons, List.not_mem_nil, or_false, not_or] at hfirst
  obtain ⟨hslash, hround, hround', hsquare, hsquare', hcurly, hcurly'⟩ := hfirst
  have hdocument : ∀ c ∈ (first :: cs).head?, c ≠ '/' := by
    rintro _ ⟨⟩
    exact hslash
  have hmark : errorMark.isPrefixOf (first :: cs) = false := by
    rw [errorMark_eq, List.isPrefixOf_cons_cons]
    simp [Ne.symm hround]
  have hopening : Bracket.opening? first = none := by
    unfold Bracket.opening?
    split
    · exact absurd rfl hround
    · exact absurd rfl hsquare
    · exact absurd rfl hcurly
    · rfl
  have hclosing : Bracket.closing? first = none := by
    unfold Bracket.closing?
    split
    · exact absurd rfl hround'
    · exact absurd rfl hsquare'
    · exact absurd rfl hcurly'
    · rfl
  simp only [read?, document?_eq_none hdocument, hmark, hopening, hclosing, Bool.false_eq_true,
    if_false]

/-- An integer is read exactly where one is written. -/
theorem read?_eq_integer_iff {n : Nat} (hrest : Apart rest) :
    read? cs = some (.integer n, rest) ↔ ∃ l : Literal, l.value = n ∧ cs = l.text ++ rest := by
  constructor
  · intro hread
    cases origin_of_read? hread with
    | integer _ hdecimal hinteger =>
      obtain ⟨base, body, suffix, hparts, rfl, rfl, -⟩ := Number.parts_of_integer? hinteger
      have hwhole := (hparts.decimal?_eq_none_iff hrest).mp hdecimal
      let l : Literal := ⟨base, body, suffix, hparts, hwhole⟩
      exact ⟨l, rfl, (l.text_append rest).symm⟩
  · rintro ⟨l, rfl, rfl⟩
    obtain ⟨first, tail, htext, hfirst⟩ := l.exists_text_eq_cons
    have hdecimal := (l.parts.decimal?_eq_none_iff hrest).mpr l.whole
    have hinteger := Number.integer?_of_parts l.parts hrest.word
    rw [← l.text_append, htext, List.cons_append] at hdecimal hinteger
    rw [htext, List.cons_append]
    -- A digit starts nothing but a number, so the other readers have no part in it.
    have hlead (marks : List Char) (hmarks : marks.any Char.isDigit = false) : first ∉ marks :=
      fun hmem => List.any_eq_false.mp hmarks first hmem hfirst
    have hknown : Quoted.known? (first :: (tail ++ rest)) = none := by
      refine Quoted.known?_eq_none ?_
      rintro _ ⟨⟩
      exact hlead _ rfl
    have hterminated : Quoted.terminated? (first :: (tail ++ rest)) = none := by
      refine Quoted.terminated?_eq_none ?_
      rintro _ ⟨⟩ rfl
      exact hlead ['c'] rfl (List.mem_singleton_self _)
    rw [read?_cons (hlead _ rfl)]
    simp only [literal?, hknown, hterminated, hdecimal, hinteger]
    rfl

/-- Whether a text begins with a literal that not every reader knows. -/
def BeginsRare (cs : List Char) : Prop :=
  errorMark <+: cs ∨ (Quoted.terminated? cs).isSome = true

theorem head?_of_terminated? (hterminated : (Quoted.terminated? cs).isSome = true) :
    cs.head? = some 'c' := by
  by_contra hhead
  rw [Quoted.terminated?_eq_none] at hterminated
  · cases hterminated
  · rintro _ hc rfl
    exact hhead hc

theorem BeginsRare.exists_read? (hrare : BeginsRare cs) :
    ∃ text rest, read? cs = some (.rareLiteral text, rest) := by
  obtain hmark | hterminated := hrare
  · obtain ⟨tail, rfl⟩ := hmark
    have hdocument : Blank.document? (errorMark ++ tail) = none := by
      refine document?_eq_none ?_
      rw [errorMark_eq]
      rintro _ ⟨⟩
      decide
    have hprefix : errorMark.isPrefixOf ('(' :: ("/*ERROR*/)".toList ++ tail)) = true :=
      List.isPrefixOf_iff_prefix.mpr ⟨tail, rfl⟩
    have hcons : errorMark ++ tail = '(' :: ("/*ERROR*/)".toList ++ tail) := rfl
    rw [hcons] at hdocument ⊢
    simp only [read?, hdocument, hprefix, if_true]
    exact ⟨errorMark, _, rfl⟩
  · cases cs with
    | nil => cases hterminated
    | cons c tail =>
      obtain rfl : c = 'c' := Option.some.inj (head?_of_terminated? hterminated)
      have hknown : Quoted.known? ('c' :: tail) = none := by
        refine Quoted.known?_eq_none ?_
        rintro _ ⟨⟩
        decide
      obtain ⟨rest, hrest⟩ := Option.isSome_iff_exists.mp hterminated
      rw [read?_cons (by decide)]
      simp only [literal?, hknown, hrest]
      exact ⟨_, _, rfl⟩

theorem exists_read?_eq_rareLiteral_iff :
    (∃ text rest, read? cs = some (.rareLiteral text, rest)) ↔ BeginsRare cs := by
  refine ⟨?_, BeginsRare.exists_read?⟩
  rintro ⟨text, rest, hread⟩
  cases origin_of_read? hread with
  | broken hmark => exact .inl hmark
  | terminated _ hterminated => exact .inr hterminated

end Lexeme

end Polyad
