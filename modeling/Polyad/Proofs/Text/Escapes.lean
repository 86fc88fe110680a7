import Mathlib.Tactic.SplitIfs
import Polyad.Proofs.Lexical.Digits
import Polyad.Text.Escape
/-!
Letters and texts between quotes can be read back: an escape stands for one
character, and it is known where it ends.
-/

namespace Polyad.Escape

open Number

/-- The character that a backslash and what is behind it stand for, and what
    follows it. -/
def readEscape? : List Char → Option (Char × List Char)
  | '0' :: rest => some ('\x00', rest)
  | 't' :: rest => some ('\t', rest)
  | 'n' :: rest => some ('\n', rest)
  | 'r' :: rest => some ('\r', rest)
  | 'u' :: '\x7b' :: rest =>
    match digits? 16 none rest with
    | some (point, '\x7d' :: rest) => some (.ofNat point, rest)
    | _ => none
  | c :: rest => some (c, rest)
  | [] => none

/-- The character at the beginning of a text between quotes, and what follows it. -/
def readChar? : List Char → Option (Char × List Char)
  | '\\' :: rest => readEscape? rest
  | c :: rest => some (c, rest)
  | [] => none

/-- The quotes that texts and letters stand in. -/
def IsQuote (quote : Char) : Prop :=
  quote = '"' ∨ quote = '\''

theorem stops_brace (rest : List Char) : Stops ('\x7d' :: rest) := by
  rintro c ⟨⟩
  decide

theorem readChar?_codePoint (c : Char) (rest : List Char) :
    readChar? (codePoint c ++ rest) = some (c, rest) := by
  have hdigits : digits? 16 none (Nat.toDigits 16 c.toNat ++ '\x7d' :: rest) =
      some (c.toNat, '\x7d' :: rest) := by
    rw [digits?_toDigits (by decide) (by decide), digits?_of_stops (stops_brace rest)]
  simp [codePoint, readChar?, readEscape?, hdigits]

/-- No quote is taken for the letter of another escape. -/
theorem readEscape?_quote {quote : Char} (hquote : IsQuote quote) (rest : List Char) :
    readEscape? (quote :: rest) = some (quote, rest) := by
  obtain rfl | rfl := hquote <;> simp [readEscape?]

theorem readChar?_char {quote : Char} (hquote : IsQuote quote) (c : Char) (rest : List Char) :
    readChar? (char quote c ++ rest) = some (c, rest) := by
  unfold char
  split_ifs with hzero htab hline hreturn hslash hsame hplain
  · simp [readChar?, readEscape?, hzero]
  · simp [readChar?, readEscape?, htab]
  · simp [readChar?, readEscape?, hline]
  · simp [readChar?, readEscape?, hreturn]
  · simp [readChar?, readEscape?, hslash]
  · simp [readChar?, readEscape?_quote hquote, hsame]
  · simp [readChar?]
  · exact readChar?_codePoint c rest

/-- Characters between quotes can be told apart whatever follows them. -/
theorem char_append_inj {quote : Char} (hquote : IsQuote quote) {c d : Char} {xs ys : List Char}
    (htext : char quote c ++ xs = char quote d ++ ys) : c = d ∧ xs = ys := by
  have hread := congrArg readChar? htext
  rw [readChar?_char hquote, readChar?_char hquote] at hread
  simpa using hread

/-- What is written for a character does not begin with the quote, which would
    end the text. -/
theorem exists_char_eq_cons {quote : Char} (hquote : IsQuote quote) (c : Char) :
    ∃ first rest, char quote c = first :: rest ∧ first ≠ quote := by
  have hslash : '\\' ≠ quote := by
    obtain rfl | rfl := hquote <;> decide
  have hescape (rest : List Char) : ∃ first tail, '\\' :: rest = first :: tail ∧ first ≠ quote :=
    ⟨'\\', rest, rfl, hslash⟩
  unfold char
  split_ifs with _ _ _ _ _ hsame
  · exact hescape _
  · exact hescape _
  · exact hescape _
  · exact hescape _
  · exact hescape _
  · exact hescape _
  · exact ⟨c, [], rfl, hsame⟩
  · exact hescape _

theorem flatMap_char_append_inj {quote : Char} (hquote : IsQuote quote) {s t : List Char}
    {xs ys : List Char}
    (htext : s.flatMap (char quote) ++ quote :: xs = t.flatMap (char quote) ++ quote :: ys) :
    s = t ∧ xs = ys := by
  induction s generalizing t with
  | nil =>
    cases t with
    | nil => simpa using htext
    | cons d t =>
      obtain ⟨first, rest, hchar, hne⟩ := exists_char_eq_cons hquote d
      have hfirst : quote = first := by
        rw [List.flatMap_cons, hchar] at htext
        exact (List.cons.inj htext).1
      exact absurd hfirst.symm hne
  | cons c s ih =>
    cases t with
    | nil =>
      obtain ⟨first, rest, hchar, hne⟩ := exists_char_eq_cons hquote c
      have hfirst : first = quote := by
        rw [List.flatMap_cons, hchar] at htext
        exact (List.cons.inj htext).1
      exact absurd hfirst hne
    | cons d t =>
      rw [List.flatMap_cons, List.flatMap_cons, List.append_assoc, List.append_assoc] at htext
      obtain ⟨rfl, hrest⟩ := char_append_inj hquote htext
      obtain ⟨rfl, hends⟩ := ih hrest
      exact ⟨rfl, hends⟩

theorem quoted_append_inj {s t xs ys : List Char} (htext : quoted s ++ xs = quoted t ++ ys) :
    s = t ∧ xs = ys := by
  apply flatMap_char_append_inj (.inl rfl)
  simpa [quoted] using htext

theorem quotedLetter_append_inj {c d : Char} {xs ys : List Char}
    (htext : quotedLetter c ++ xs = quotedLetter d ++ ys) : c = d ∧ xs = ys := by
  have hinside : char '\'' c ++ '\'' :: xs = char '\'' d ++ '\'' :: ys := by
    simpa [quotedLetter] using htext
  obtain ⟨hchar, hrest⟩ := char_append_inj (.inr rfl) hinside
  exact ⟨hchar, (List.cons.inj hrest).2⟩

/-- The ends of lines are written as escapes. -/
theorem newline_not_mem_char {quote : Char} (hquote : IsQuote quote) (c : Char) :
    '\n' ∉ char quote c := by
  have hcode : '\n' ∉ codePoint c := by
    intro hmem
    have hdigit : '\n' ∈ Nat.toDigits 16 c.toNat := by simpa [codePoint] using hmem
    obtain ⟨d, hd, hsame⟩ := exists_of_mem_toDigits (by decide) hdigit
    revert d
    decide
  have hquote' : '\n' ≠ quote := by
    obtain rfl | rfl := hquote <;> decide
  unfold char
  split_ifs with _ _ hline _ _ hsame
  case neg => exact hcode
  all_goals simp_all [Ne.symm]

theorem newline_not_mem_quoted (s : List Char) : '\n' ∉ quoted s := by
  have hletters : ∀ c ∈ s, '\n' ∉ char '"' c := fun c _ => newline_not_mem_char (.inl rfl) c
  simpa [quoted] using hletters

theorem newline_not_mem_quotedLetter (c : Char) : '\n' ∉ quotedLetter c := by
  simpa [quotedLetter] using newline_not_mem_char (.inr rfl) c

end Polyad.Escape
