import Polyad.Ceiling
import Polyad.Proofs.Family.Expansion
import Polyad.Proofs.Lexical.Lexing
/-!
The language of ceilings. A text gives a ceiling exactly if it is one integer that is a
word, with blanks around it and perhaps a comma behind it. Every other text gives an
error, and which texts stop the reader can be told from how they begin. What a ceiling
gives is a family, unless there is none that large or that small.
-/

namespace Polyad

namespace Ceiling

open Number (Literal Apart)
open Blank (Skips)
open Lexeme (sequence?)

/-- A text without a mark of byte order at its front. -/
def unmarked : List Char → List Char
  | '\ufeff' :: rest => rest
  | cs => cs

/-- Whether a text is blank, or one comma between blanks. -/
def Closes (rest : List Char) : Prop :=
  Skips rest [] ∨ ∃ behind, Skips rest (',' :: behind) ∧ Skips behind []

/-- Whether a text is one integer, with blanks around it and perhaps a comma behind it. -/
def Spells (text : List Char) (value : Nat) : Prop :=
  ∃ (l : Literal) (rest : List Char),
    l.value = value ∧ Skips (unmarked text) (l.text ++ rest) ∧ Closes rest

/-- Whether a text has lexemes and begins with one that stops the reader. -/
def StopsReader (text : List Char) : Prop :=
  (Lexeme.ofText? text).isSome = true ∧
    ∃ front, Skips (unmarked text) front ∧ Lexeme.BeginsRare front

section Lexemes

variable {text rest : List Char} {lexemes : List Lexeme}

theorem apart_of_closes (hrest : Closes rest) : Apart rest := by
  obtain hskips | ⟨behind, hskips, -⟩ := hrest
  · exact Number.apart_of_skips hskips Number.apart_nil
  · exact Number.apart_of_skips hskips (Number.apart_cons (by decide) (by decide) behind)

theorem sequence?_comma (rest : List Char) :
    sequence? (',' :: rest) = (sequence? rest).map (.operator ',' :: ·) :=
  Lexeme.sequence?_of_read? rfl rfl (Nat.lt_succ_self rest.length)

theorem closes_iff :
    Closes rest ↔ ∃ tail, (tail = [] ∨ tail = [.operator ',']) ∧ sequence? rest = some tail := by
  constructor
  · rintro (hskips | ⟨behind, hskips, hbehind⟩)
    · exact ⟨[], .inl rfl, Lexeme.sequence?_eq_nil_iff.mpr hskips⟩
    · refine ⟨[.operator ','], .inr rfl, ?_⟩
      rw [Lexeme.sequence?_of_skips hskips, sequence?_comma,
        Lexeme.sequence?_eq_nil_iff.mpr hbehind]
      rfl
  · rintro ⟨tail, rfl | rfl, hsequence⟩
    · exact .inl (Lexeme.sequence?_eq_nil_iff.mp hsequence)
    · obtain ⟨front, behind, hskips, -, hread, -, hbehind⟩ :=
        Lexeme.sequence?_eq_cons_iff.mp hsequence
      cases Lexeme.origin_of_read? hread with
      | operator _ hfront =>
        subst hfront
        exact .inr ⟨behind, hskips, Lexeme.sequence?_eq_nil_iff.mp hbehind⟩

theorem drop?_literal (l : Literal) (rest : List Char) : Blank.drop? (l.text ++ rest) = none := by
  obtain ⟨first, tail, htext, hfirst⟩ := l.exists_text_eq_cons
  have hcontinue : Alphabet.isContinue first = true :=
    Number.isContinue_of_isDigit (by rw [Number.isDigit, hfirst, Bool.true_or])
  rw [htext, List.cons_append]
  refine Blank.drop?_eq_none ?_
  rintro _ ⟨⟩
  constructor
  · rintro rfl
    cases hfirst
  · by_contra hspace
    rw [Number.isContinue_of_isSpace (by simpa using hspace)] at hcontinue
    cases hcontinue

theorem sequence?_literal (l : Literal) (hrest : Apart rest) :
    sequence? (l.text ++ rest) = (sequence? rest).map (.integer l.value :: ·) := by
  obtain ⟨first, tail, htext, -⟩ := l.exists_text_eq_cons
  have hread : Lexeme.read? (l.text ++ rest) = some (.integer l.value, rest) :=
    (Lexeme.read?_eq_integer_iff hrest).mpr ⟨l, rfl, rfl⟩
  have hshort : rest.length < (l.text ++ rest).length := by
    rw [htext, List.cons_append, List.length_cons, List.length_append]
    omega
  exact Lexeme.sequence?_of_read? (drop?_literal l rest) hread hshort

/-- The texts that spell an integer are those whose lexemes are that integer and perhaps
    a comma. -/
theorem spells_iff {value : Nat} :
    Spells text value ↔ ∃ tail, (tail = [] ∨ tail = [.operator ',']) ∧
      sequence? (unmarked text) = some (.integer value :: tail) := by
  constructor
  · rintro ⟨l, rest, rfl, hskips, hcloses⟩
    obtain ⟨tail, htail, hsequence⟩ := closes_iff.mp hcloses
    refine ⟨tail, htail, ?_⟩
    rw [Lexeme.sequence?_of_skips hskips, sequence?_literal l (apart_of_closes hcloses), hsequence]
    rfl
  · rintro ⟨tail, htail, hsequence⟩
    obtain ⟨front, rest, hskips, -, hread, -, hrest⟩ := Lexeme.sequence?_eq_cons_iff.mp hsequence
    have hcloses : Closes rest := closes_iff.mpr ⟨tail, htail, hrest⟩
    obtain ⟨l, hvalue, rfl⟩ := (Lexeme.read?_eq_integer_iff (apart_of_closes hcloses)).mp hread
    exact ⟨l, rest, hvalue, hskips, hcloses⟩

theorem unmarked_eq_self (hmark : ∀ rest, text ≠ '\ufeff' :: rest) : unmarked text = text := by
  unfold unmarked
  split
  · exact absurd rfl (hmark _)
  · rfl

theorem ofText?_eq (text : List Char) :
    Lexeme.ofText? text = (sequence? (unmarked text)).filter (Lexeme.balanced []) := by
  unfold Lexeme.ofText?
  split
  · rename_i rest
    have hunmarked : unmarked ('\ufeff' :: rest) = rest := rfl
    rw [hunmarked, sequence?]
    dsimp only
    cases Lexeme.readAll? rest <;> rfl
  · rename_i hmark
    rw [unmarked_eq_self hmark, sequence?]
    dsimp only
    cases Lexeme.readAll? text <;> rfl

theorem ofText?_eq_some_iff :
    Lexeme.ofText? text = some lexemes ↔
      sequence? (unmarked text) = some lexemes ∧ Lexeme.balanced [] lexemes = true := by
  rw [ofText?_eq, Option.filter_eq_some_iff]

theorem ofLexemes_eq_ok_iff {ceiling : Nat} :
    ofLexemes lexemes = .ok ceiling ↔
      ∃ tail, (tail = [] ∨ tail = [.operator ',']) ∧ lexemes = .integer ceiling :: tail ∧
        ceiling < wordCount := by
  constructor
  · intro hread
    unfold ofLexemes at hread
    split at hread
    case h_2 value tail =>
      split at hread
      · split at hread
        · cases hread
          exact ⟨tail, ‹_›, rfl, ‹_›⟩
        · cases hread
      · cases hread
    all_goals cases hread
  · rintro ⟨tail, htail, rfl, hword⟩
    rw [ofLexemes, if_pos hword, if_pos htail]

theorem ofLexemes_stops_iff :
    (∃ e, ofLexemes lexemes = .error e ∧ e.stops = true) ↔
      ∃ text tail, lexemes = .rareLiteral text :: tail := by
  constructor
  · rintro ⟨e, hread, hstops⟩
    unfold ofLexemes at hread
    split at hread
    case h_2 value tail =>
      split at hread
      · split at hread <;> cases hread
        cases hstops
      · cases hread
        cases hstops
    case h_4 literal tail => exact ⟨literal, tail, rfl⟩
    all_goals
      cases hread
      cases hstops
  · rintro ⟨text, tail, rfl⟩
    exact ⟨.unknownLiteral text, rfl, rfl⟩

theorem balanced_of_tail {value : Nat} {tail : List Lexeme}
    (htail : tail = [] ∨ tail = [.operator ',']) :
    Lexeme.balanced [] (.integer value :: tail) = true := by
  obtain rfl | rfl := htail <;> rfl

theorem read_eq_ok_iff {ceiling : Nat} :
    read text = .ok ceiling ↔ Spells text ceiling ∧ ceiling < wordCount := by
  rw [spells_iff]
  constructor
  · intro hread
    cases hlexemes : Lexeme.ofText? text with
    | none =>
      rw [read, hlexemes] at hread
      cases hread
    | some lexemes =>
      rw [read, hlexemes] at hread
      obtain ⟨tail, htail, rfl, hword⟩ := ofLexemes_eq_ok_iff.mp hread
      exact ⟨⟨tail, htail, (ofText?_eq_some_iff.mp hlexemes).1⟩, hword⟩
  · rintro ⟨⟨tail, htail, hsequence⟩, hword⟩
    have hlexemes := ofText?_eq_some_iff.mpr ⟨hsequence, balanced_of_tail htail⟩
    rw [read, hlexemes]
    exact ofLexemes_eq_ok_iff.mpr ⟨tail, htail, rfl, hword⟩

theorem drop?_of_beginsRare (hrare : Lexeme.BeginsRare text) : Blank.drop? text = none := by
  refine Blank.drop?_eq_none fun c hc => ?_
  have hlead : c = '(' ∨ c = 'c' := by
    obtain ⟨tail, rfl⟩ | hterminated := hrare
    · rw [Lexeme.errorMark_eq] at hc
      exact .inl (Option.some.inj hc).symm
    · rw [Lexeme.head?_of_terminated? hterminated] at hc
      exact .inr (Option.some.inj hc).symm
  obtain rfl | rfl := hlead <;> decide

/-- The reader is stopped by the first lexeme and by nothing else. -/
theorem read_stops_iff :
    (∃ e, read text = .error e ∧ e.stops = true) ↔ StopsReader text := by
  constructor
  · rintro ⟨e, hread, hstops⟩
    cases hlexemes : Lexeme.ofText? text with
    | none =>
      rw [read, hlexemes] at hread
      cases hread
      cases hstops
    | some lexemes =>
      rw [read, hlexemes] at hread
      obtain ⟨literal, tail, rfl⟩ := ofLexemes_stops_iff.mp ⟨e, hread, hstops⟩
      have hsequence := (ofText?_eq_some_iff.mp hlexemes).1
      obtain ⟨front, rest, hskips, -, hfront, -⟩ := Lexeme.sequence?_eq_cons_iff.mp hsequence
      exact ⟨by rw [hlexemes]; rfl, front, hskips,
        Lexeme.exists_read?_eq_rareLiteral_iff.mp ⟨literal, rest, hfront⟩⟩
  · rintro ⟨hsome, front, hskips, hrare⟩
    obtain ⟨lexemes, hlexemes⟩ := Option.isSome_iff_exists.mp hsome
    obtain ⟨literal, rest, hfront⟩ := hrare.exists_read?
    have hsequence := (ofText?_eq_some_iff.mp hlexemes).1
    rw [Lexeme.sequence?_of_skips hskips] at hsequence
    obtain ⟨rfl, -⟩ | ⟨_, _, tail, rfl, hread, -⟩ :=
      Lexeme.exists_read?_of_sequence? (drop?_of_beginsRare hrare) hsequence
    · cases hfront
    · rw [hfront] at hread
      cases hread
      rw [read, hlexemes]
      exact ofLexemes_stops_iff.mpr ⟨literal, tail, rfl⟩

/-- A text that gives no ceiling and does not stop the reader is refused. -/
theorem read_refuses_iff :
    (∃ e, read text = .error e ∧ e.stops = false) ↔
      (∀ value, Spells text value → wordCount ≤ value) ∧ ¬ StopsReader text := by
  rw [← read_stops_iff]
  cases hread : read text with
  | ok ceiling =>
    have hspells := read_eq_ok_iff.mp hread
    constructor
    · rintro ⟨_, ⟨⟩, -⟩
    · rintro ⟨hlarge, -⟩
      have hle := hlarge ceiling hspells.1
      omega
  | error e =>
    have hlarge : ∀ value, Spells text value → wordCount ≤ value := by
      intro value hspells
      by_contra hword
      have hok := read_eq_ok_iff.mpr ⟨hspells, Nat.lt_of_not_le hword⟩
      rw [hread] at hok
      cases hok
    constructor
    · rintro ⟨_, ⟨⟩, hrefused⟩
      refine ⟨hlarge, ?_⟩
      rintro ⟨_, ⟨⟩, hstops⟩
      rw [hrefused] at hstops
      cases hstops
    · rintro ⟨-, hstops⟩
      exact ⟨e, rfl, eq_false_of_ne_true fun hstop => hstops ⟨e, rfl, hstop⟩⟩

end Lexemes

section Blanks

variable {front between behind comma : List Char}

theorem unmarked_spaces (hfront : ∀ c ∈ front, Blank.isSpace c = true) (l : Literal)
    (rest : List Char) : unmarked (front ++ (l.text ++ rest)) = front ++ (l.text ++ rest) := by
  refine unmarked_eq_self ?_
  intro tail htext
  cases front with
  | nil =>
    obtain ⟨first, digits, hdigits, hfirst⟩ := l.exists_text_eq_cons
    rw [hdigits] at htext
    cases htext
    cases hfirst
  | cons c front =>
    cases htext
    cases hfront _ List.mem_cons_self

theorem closes_of_spaces (hcomma : comma = [] ∨ comma = [','])
    (hbetween : ∀ c ∈ between, Blank.isSpace c = true)
    (hbehind : ∀ c ∈ behind, Blank.isSpace c = true) : Closes (between ++ (comma ++ behind)) := by
  have hend : Skips behind [] := by simpa using Blank.skips_spaces hbehind []
  have hskips := Blank.skips_spaces hbetween (comma ++ behind)
  obtain rfl | rfl := hcomma
  · exact .inl (hskips.trans hend)
  · exact .inr ⟨behind, hskips, hend⟩

/-- White space around an integer and a comma behind it say nothing about its value. -/
theorem spells_of_spaces (l : Literal) (hcomma : comma = [] ∨ comma = [','])
    (hblanks : ∀ c ∈ front ++ between ++ behind, Blank.isSpace c = true) :
    Spells (front ++ (l.text ++ (between ++ (comma ++ behind)))) l.value := by
  simp only [List.mem_append, or_imp, forall_and] at hblanks
  obtain ⟨⟨hfront, hbetween⟩, hbehind⟩ := hblanks
  refine ⟨l, between ++ (comma ++ behind), rfl, ?_, closes_of_spaces hcomma hbetween hbehind⟩
  rw [unmarked_spaces hfront]
  exact Blank.skips_spaces hfront _

end Blanks

/-- A text is refused if a minus sign is the first of it that is not blank, whatever
    follows. -/
theorem read_minus {text rest : List Char} (hskips : Skips (unmarked text) ('-' :: rest)) :
    ∃ e, read text = .error e ∧ e.stops = false := by
  have hminus : Blank.drop? ('-' :: rest) = none := by
    refine Blank.drop?_eq_none ?_
    rintro _ ⟨⟩
    decide
  -- Only one text is left when the blanks are dropped, and it begins with the sign.
  refine read_refuses_iff.mpr ⟨?_, ?_⟩
  · rintro value ⟨l, behind, -, hliteral, -⟩
    obtain ⟨first, tail, htext, hfirst⟩ := l.exists_text_eq_cons
    have hsame := hskips.eq_of_drop?_eq_none hminus hliteral (drop?_literal l behind)
    rw [htext, List.cons_append] at hsame
    obtain ⟨rfl, -⟩ := List.cons.inj hsame
    cases hfirst
  · rintro ⟨-, front, hfront, hrare⟩
    obtain rfl := hskips.eq_of_drop?_eq_none hminus hfront (drop?_of_beginsRare hrare)
    obtain ⟨tail, hmark⟩ | hterminated := hrare
    · rw [Lexeme.errorMark_eq] at hmark
      cases hmark
    · cases hterminated

/-- The error for a ceiling that is too large shows that ceiling and the limit. -/
theorem debug_tooLarge (ceiling : Nat) :
    (Error.tooLarge ceiling).debug =
      "CeilingTooLarge \x7b ceiling: ".toList ++ (toString ceiling).toList ++
        ", limit: 8 \x7d".toList := by
  have hlimit : Nat.toDigits 10 limit = ['8'] := by decide
  simp [Error.debug, Error.kind, Layout.record, Layout.commaSeparated, hlimit]

/-- The number seven in base sixteen, with an underscore and a suffix. -/
def hexadecimalSeven : Literal where
  base := 16
  body := ['_', '7']
  suffix := ['u', '8']
  parts :=
    { base_mem := by decide
      digits :=
        { all := by
            intro c hc
            simp only [List.mem_cons, List.not_mem_nil, or_false] at hc
            exact hc.imp_right fun hseven => ⟨7, by decide, by rw [hseven]; rfl⟩
          nonempty := by decide
          lead := by decide }
      name := .inr ⟨by decide, List.forall_mem_singleton.mpr (by decide)⟩
      apart := by
        rintro _ ⟨⟩
        refine ⟨by decide, ?_, by decide⟩
        rintro ⟨d, -, hd⟩
        cases hd
      unmarked := by decide }
  whole := by
    intro hten
    cases hten

open Family in
/-- A text gives a ceiling exactly if it is one integer that is a word, with blanks around
    it and perhaps a comma behind it. Every other text is refused, but for those that stop
    the reader. What the ceiling gives then does not depend on how it was written. -/
theorem reads_one_integer (text : List Char) (manifest : Option Manifest) (ceiling : Nat) :
    (read text = .ok ceiling ↔ Spells text ceiling ∧ ceiling < wordCount) ∧
    ((∃ e, read text = .error e ∧ e.stops = false) ↔
      (∀ value, Spells text value → wordCount ≤ value) ∧ ¬ StopsReader text) ∧
    ((∃ e, read text = .error e ∧ e.stops = true) ↔ StopsReader text) ∧
    (∀ rest, Skips (unmarked text) ('-' :: rest) →
      ∃ e, read text = .error e ∧ e.stops = false) ∧
    (∀ (l : Literal) (front between comma behind : List Char), comma = [] ∨ comma = [','] →
      (∀ c ∈ front ++ between ++ behind, Blank.isSpace c = true) →
      Spells (front ++ (l.text ++ (between ++ (comma ++ behind)))) l.value) ∧
    Answered manifest ceiling ∧
    ((Error.tooLarge ceiling).debug =
      "CeilingTooLarge \x7b ceiling: ".toList ++ (toString ceiling).toList ++
        ", limit: 8 \x7d".toList) ∧
    (∀ home, (ceilingItem ceiling :: members home ceiling).filterMap Code.Item.ceiling? =
      [ceiling]) := by
  refine ⟨read_eq_ok_iff, read_refuses_iff, read_stops_iff, fun rest => read_minus, ?_,
    answered manifest ceiling, debug_tooLarge ceiling, fun home => ceiling_items home ceiling⟩
  intro l front between comma behind hcomma hblanks
  exact spells_of_spaces l hcomma hblanks

theorem reads_one_integer_hexadecimal :
    read [' ', '0', 'x', '_', '7', 'u', '8', ' ', ','] = .ok 7 ∧
      ∃ items, Family.expand none 7 = .ok items := by
  have hreads := reads_one_integer [' ', '0', 'x', '_', '7', 'u', '8', ' ', ','] none 7
  obtain ⟨hread, -, -, -, hspells, hanswered, -⟩ := hreads
  have hblanks : ∀ c ∈ [' '] ++ [' '] ++ [], Blank.isSpace c = true := by
    intro c hc
    simp only [List.append_nil, List.cons_append, List.nil_append, List.mem_cons,
      List.not_mem_nil, or_false, or_self] at hc
    rw [hc]
    rfl
  refine ⟨hread.mpr ⟨?_, by decide⟩, _, (hanswered.ok _).mpr ⟨by decide, _, rfl, rfl⟩⟩
  exact hspells hexadecimalSeven [' '] [' '] [','] [] (.inr rfl) hblanks

/-- The literal of a text that ends with a zero byte stops the reader. -/
theorem terminated_text_stops_reader :
    ∃ e, read ['c', '"', 'x', '"'] = .error e ∧ e.stops = true ∧
      e.message = "Unrecognized literal: `c\"x\"`" := by
  have hread : Lexeme.read? ['c', '"', 'x', '"'] =
      some (.rareLiteral ['c', '"', 'x', '"'], []) := by decide
  have hsequence : sequence? ['c', '"', 'x', '"'] = some [.rareLiteral ['c', '"', 'x', '"']] := by
    rw [Lexeme.sequence?_of_read? (by decide) hread (by decide), Lexeme.sequence?_nil]
    rfl
  have hlexemes : Lexeme.ofText? ['c', '"', 'x', '"'] = some [.rareLiteral ['c', '"', 'x', '"']] :=
    ofText?_eq_some_iff.mpr ⟨hsequence, rfl⟩
  exact ⟨.unknownLiteral ['c', '"', 'x', '"'], by rw [read, hlexemes]; rfl, rfl, by decide⟩

end Ceiling

end Polyad
