import Polyad.Proofs.Text.Escapes
import Polyad.Value.Text
/-!
The debug form of a value can be read in one way only, in a row and spread out. Both
forms are brought into one without line breaks, in which each value ends at a comma
or a parenthesis that belongs to what holds it.
-/

namespace Polyad

namespace Layout

/-- Put the lines of a text side by side, without the spaces that they begin with.
    `fresh` says whether the text starts a line. -/
def joinLines (fresh : Bool) : List Char → List Char
  | [] => []
  | c :: rest =>
    if c = '\n' then joinLines true rest
    else if fresh ∧ c = ' ' then joinLines true rest
    else c :: joinLines false rest

/-- Indenting a text adds nothing but spaces at the beginnings of lines. -/
theorem joinLines_indentFrom {indented fresh : Bool} (hfresh : indented = true → fresh = true)
    (text rest : List Char) :
    joinLines fresh (indentFrom indented text ++ rest) = joinLines fresh (text ++ rest) := by
  induction text generalizing indented fresh with
  | nil => rfl
  | cons c text ih =>
    have hbehind : joinLines fresh (c :: (indentFrom (c == '\n') text ++ rest)) =
        joinLines fresh (c :: (text ++ rest)) := by
      by_cases hline : c = '\n'
      · simp [joinLines, hline, ih]
      · by_cases hspace : fresh = true ∧ c = ' ' <;> simp [joinLines, hline, hspace, ih]
    cases indented with
    | false => simpa [indentFrom] using hbehind
    | true =>
      obtain rfl := hfresh rfl
      simpa [indentFrom, joinLines] using hbehind

theorem joinLines_of_not_mem {text : List Char} (hline : '\n' ∉ text) (rest : List Char) :
    joinLines false (text ++ rest) = text ++ joinLines false rest := by
  induction text with
  | nil => rfl
  | cons c text ih =>
    rw [List.mem_cons, not_or] at hline
    simp [joinLines, Ne.symm hline.1, ih hline.2]

/-- A line that does not begin with a space stays as it is. -/
theorem joinLines_line {fresh : Bool} {c : Char} {text : List Char} (hspace : c ≠ ' ')
    (hline : '\n' ∉ c :: text) (rest : List Char) :
    joinLines fresh (c :: text ++ rest) = c :: text ++ joinLines false rest := by
  rw [List.mem_cons, not_or] at hline
  simp [joinLines, Ne.symm hline.1, hspace, joinLines_of_not_mem hline.2]

theorem joinLines_spreadPart {part joined : List Char}
    (hpart : ∀ rest, joinLines true (part ++ rest) = joined ++ joinLines false rest)
    (rest : List Char) :
    joinLines true (spreadPart part ++ rest) = joined ++ ',' :: joinLines true rest := by
  rw [spreadPart, joinLines_indentFrom id, List.append_assoc, hpart]
  simp [joinLines]

end Layout

namespace Value

open Number

/-- What parts two slots. In the spread-out form it is followed by a new line. -/
def separator (alternate : Bool) : List Char :=
  if alternate then [','] else [',', ' ']

/-- What stands behind the last of some slots. -/
def ending (alternate : Bool) (lone : Bool) : List Char :=
  if alternate || lone then [',', ')'] else [')']

mutual

/-- The debug form without line breaks. -/
def compact (alternate : Bool) : Value → List Char
  | a@(int _) | a@(bool _) | a@(char _) | a@(text _) | a@absent => debug {} a
  | present inner => ['S', 'o', 'm', 'e', '('] ++ compact alternate inner ++ ending alternate false
  | tuple .nil => ['(', ')']
  | @tuple (n + 1) (.cons head tail) =>
    '(' :: compact alternate head ++ compactTail alternate (ending alternate (n == 0)) tail

/-- The slots behind the first one, up to the given end. -/
def compactTail (alternate : Bool) (ending : List Char) {n : Nat} : Tuple Value n → List Char
  | .nil => ending
  | .cons head tail =>
    separator alternate ++ compact alternate head ++ compactTail alternate ending tail

end

theorem debug_int (alternate : Bool) (number : Int64) :
    debug { alternate } (int number) =
      (if number < 0 then ['-'] else []) ++ Nat.toDigits 10 number.toInt.natAbs := by
  simp [debug, numberText, Flags.padNumber, Flags.align]

theorem debug_bool (alternate : Bool) (answer : Bool) :
    debug { alternate } (bool answer) = if answer then "true".toList else "false".toList := by
  rw [debug, boolText, Flags.padText_eq_self rfl rfl]

mutual

theorem debug_eq_compact : (a : Value) → debug {} a = compact false a
  | int _ | bool _ | char _ | text _ | absent => by simp [compact]
  | present a => by
    simp [debug, Layout.tuple, Layout.commaSeparated, compact, ending, debug_eq_compact a]
  | tuple .nil => by simp [debug, compact]
  | @tuple (n + 1) (.cons a s) => by
    rw [compact, compactTail_eq_flatMap s, ← debug_eq_compact a]
    cases s <;>
      simp [debug, debugSlots, Layout.tuple, Layout.commaSeparated_cons, ending]

theorem compactTail_eq_flatMap {ending : List Char} {n : Nat} : (s : Tuple Value n) →
    compactTail false ending s = (debugSlots {} s).flatMap ([',', ' '] ++ ·) ++ ending
  | .nil => by simp [compactTail, debugSlots]
  | .cons a s => by
    simp [compactTail, debugSlots, separator, debug_eq_compact a, compactTail_eq_flatMap s]

end

/-- The kind of the value that a text begins with. -/
def kindOfLead? : List Char → Option Kind
  | [] => none
  | c :: _ =>
    if c.isDigit ∨ c = '-' then some .int
    else
      match c with
      | 't' | 'f' => some .bool
      | '\'' => some .char
      | '"' => some .text
      | 'N' | 'S' => some .optional
      | '(' => some .tuple
      | _ => none

theorem exists_toDigits_eq_cons (n : Nat) :
    ∃ d digits, Nat.toDigits 10 n = d :: digits ∧ d.isDigit = true := by
  obtain ⟨d, digits, hdigits⟩ := List.exists_cons_of_ne_nil (Nat.toDigits_ne_nil (n := n) (b := 10))
  have hmem : d ∈ Nat.toDigits 10 n := by rw [hdigits]; exact List.mem_cons_self
  exact ⟨d, digits, hdigits, Nat.isDigit_of_mem_toDigits (by decide) (by decide) hmem⟩

theorem kindOfLead?_compact (alternate : Bool) (a : Value) (rest : List Char) :
    kindOfLead? (compact alternate a ++ rest) = some a.kind := by
  cases a with
  | int number =>
    by_cases hnegative : number < 0
    · simp [compact, debug_int, hnegative, kindOfLead?, kind]
    · obtain ⟨d, digits, hdigits, hdigit⟩ := exists_toDigits_eq_cons number.toInt.natAbs
      simp [compact, debug_int, hnegative, hdigits, hdigit, kindOfLead?, kind]
  | bool answer => cases answer <;> simp [compact, debug_bool, kindOfLead?, kind]
  | char letter => simp [compact, debug, Escape.quotedLetter, kindOfLead?, kind]
  | text letters => simp [compact, debug, Escape.quoted, kindOfLead?, kind]
  | absent => simp [compact, debug, kindOfLead?, kind]
  | present a => simp [compact, kindOfLead?, kind]
  | tuple s => cases s <;> simp [compact, kindOfLead?, kind]

theorem kind_eq_of_compact {alternate : Bool} {a b : Value} {xs ys : List Char}
    (htext : compact alternate a ++ xs = compact alternate b ++ ys) : a.kind = b.kind := by
  have hkind := congrArg kindOfLead? htext
  rw [kindOfLead?_compact, kindOfLead?_compact] at hkind
  exact Option.some.inj hkind

/-- A text that no value begins with is not mistaken for one. -/
theorem ne_compact {text : List Char} (hlead : kindOfLead? text = none) (alternate : Bool)
    (a : Value) (rest : List Char) : text ≠ compact alternate a ++ rest := by
  rintro rfl
  rw [kindOfLead?_compact] at hlead
  cases hlead

theorem newline_not_mem_debug_int (number : Int64) : '\n' ∉ debug {} (int number) := by
  intro hmem
  have hdigit : '\n' ∈ Nat.toDigits 10 number.toInt.natAbs := by
    rw [debug_int] at hmem
    split at hmem <;> simpa using hmem
  have := Nat.isDigit_of_mem_toDigits (by decide) (by decide) hdigit
  revert this
  decide

/-- A value that is all on one line is the same in both forms. -/
theorem joinLines_line {fresh : Bool} {a : Value}
    (hsame : debug { alternate := true } a = compact true a) (hline : '\n' ∉ compact true a)
    (rest : List Char) :
    Layout.joinLines fresh (debug { alternate := true } a ++ rest) =
      compact true a ++ Layout.joinLines false rest := by
  have hlead := kindOfLead?_compact true a []
  rw [hsame]
  cases htext : compact true a with
  | nil =>
    rw [htext] at hlead
    cases hlead
  | cons c text =>
    have hspace : c ≠ ' ' := by
      rintro rfl
      rw [htext] at hlead
      cases hlead
    exact Layout.joinLines_line hspace (htext ▸ hline) rest

mutual

/-- Spread out over lines, a value is the same but for the line breaks. -/
theorem joinLines_debug {fresh : Bool} (rest : List Char) : (a : Value) →
    Layout.joinLines fresh (debug { alternate := true } a ++ rest) =
      compact true a ++ Layout.joinLines false rest
  | int number => joinLines_line (by simp [compact, debug_int])
      (by simpa [compact] using newline_not_mem_debug_int number) rest
  | bool answer => joinLines_line (by simp [compact, debug_bool])
      (by cases answer <;> simp [compact, debug_bool]) rest
  | char letter => joinLines_line (by simp [compact, debug])
      (by simpa [compact, debug] using Escape.newline_not_mem_quotedLetter letter) rest
  | text letters => joinLines_line (by simp [compact, debug])
      (by simpa [compact, debug] using Escape.newline_not_mem_quoted letters.toList) rest
  | absent => joinLines_line (by simp [compact, debug]) (by simp [compact, debug]) rest
  | present a => by
    have hpart := Layout.joinLines_spreadPart (fun rest => joinLines_debug rest a) (')' :: rest)
    simp [debug, compact, Layout.tuple, Layout.joinLines, ending, hpart]
  | tuple .nil => by simp [debug, compact, Layout.joinLines]
  | @tuple (n + 1) (.cons a s) => by
    have hslots := joinLines_debugSlots rest s
    have hpart := Layout.joinLines_spreadPart fun rest => joinLines_debug rest a
    simp [debug, compact, debugSlots, Layout.tuple, Layout.joinLines, ending, hpart, hslots]

theorem joinLines_debugSlots (rest : List Char) {n : Nat} : (s : Tuple Value n) →
    ',' :: Layout.joinLines true
        ((debugSlots { alternate := true } s).flatMap Layout.spreadPart ++ ')' :: rest) =
      compactTail true [',', ')'] s ++ Layout.joinLines false rest
  | .nil => by simp [debugSlots, compactTail, Layout.joinLines]
  | .cons a s => by
    have hslots := joinLines_debugSlots rest s
    have hpart := Layout.joinLines_spreadPart fun rest => joinLines_debug rest a
    simp [debugSlots, compactTail, separator, hpart, hslots]

end

theorem minus_append_ne (n : Nat) (xs ys : List Char) :
    '-' :: xs ≠ Nat.toDigits 10 n ++ ys := by
  intro hsame
  obtain ⟨d, digits, hdigits, hdigit⟩ := exists_toDigits_eq_cons n
  rw [hdigits] at hsame
  obtain rfl := (List.cons.inj hsame).1
  revert hdigit
  decide

theorem int_append_inj {number number' : Int64} {xs ys : List Char} (hxs : Stops xs)
    (hys : Stops ys)
    (htext : debug {} (int number) ++ xs = debug {} (int number') ++ ys) :
    number = number' ∧ xs = ys := by
  have hnegative (p : Int64) : p < 0 ↔ p.toInt < 0 := by
    rw [Int64.lt_iff_toInt_lt, Int64.toInt_zero]
  rw [debug_int, debug_int] at htext
  by_cases hsigns : number < 0 ↔ number' < 0
  · have hdigits : Nat.toDigits 10 number.toInt.natAbs ++ xs =
        Nat.toDigits 10 number'.toInt.natAbs ++ ys := by
      simpa [hsigns] using htext
    obtain ⟨hsize, hrest⟩ := toDigits_append_inj (by decide) (by decide) hxs hys hdigits
    rw [hnegative, hnegative] at hsigns
    exact ⟨Int64.toInt_inj.mp (by omega), hrest⟩
  · by_cases hsign : number < 0
    · have hsign' : ¬ number' < 0 := by simpa [hsign] using hsigns
      exact absurd (by simpa [hsign, hsign'] using htext) (minus_append_ne _ _ _)
    · have hsign' : number' < 0 := by simpa [hsign] using hsigns
      exact absurd (by simpa [hsign, hsign'] using htext.symm) (minus_append_ne _ _ _)

theorem stops_cons {c : Char} (hc : c = ',' ∨ c = ')') (rest : List Char) : Stops (c :: rest) := by
  rintro d ⟨⟩
  obtain rfl | rfl := hc <;> decide

/-- The ends that slots can have. -/
def IsEnding (alternate : Bool) (text : List Char) : Prop :=
  text = [',', ')'] ∨ alternate = false ∧ text = [')']

theorem isEnding_ending (alternate lone : Bool) : IsEnding alternate (ending alternate lone) := by
  cases alternate <;> cases lone <;> simp [IsEnding, ending]

theorem tuple_eq_of_toList_eq {n m : Nat} {s : Tuple Value n} {t : Tuple Value m}
    (hslots : s.toList = t.toList) : tuple s = tuple t := by
  have harity : n = m := by
    rw [← s.length_toList, hslots, t.length_toList]
  subst harity
  rw [Tuple.toList_injective hslots]

variable {alternate : Bool}

theorem stops_compactTail {last : List Char} (hlast : IsEnding alternate last) {n : Nat}
    (s : Tuple Value n) (rest : List Char) : Stops (compactTail alternate last s ++ rest) := by
  cases s with
  | nil => obtain rfl | ⟨-, rfl⟩ := hlast <;> exact stops_cons (by decide) _
  | cons a s => cases alternate <;> exact stops_cons (.inl rfl) _

/-- No end of slots is the beginning of another slot. -/
theorem ending_append_ne {last : List Char} (hlast : IsEnding alternate last) (a : Value)
    (xs ys : List Char) : last ++ xs ≠ separator alternate ++ (compact alternate a ++ ys) := by
  intro hsame
  obtain rfl | ⟨rfl, rfl⟩ := hlast
  · cases alternate with
    | false => simp [separator] at hsame
    | true => exact ne_compact rfl true a ys (List.cons.inj hsame).2
  · simp [separator] at hsame

mutual

/-- It is known where a value ends, if what follows does not carry on its digits: only
    numbers have no end of their own. -/
theorem compact_append_inj : (a b : Value) → {xs ys : List Char} → Stops xs → Stops ys →
    compact alternate a ++ xs = compact alternate b ++ ys → a = b ∧ xs = ys
  | int number, b, xs, ys, hxs, hys, htext => by
    have hkind := kind_eq_of_compact htext
    cases b with
    | int number' =>
      obtain ⟨rfl, hrest⟩ := int_append_inj hxs hys (by simpa [compact] using htext)
      exact ⟨rfl, hrest⟩
    | _ => cases hkind
  | bool answer, b, xs, ys, hxs, hys, htext => by
    have hkind := kind_eq_of_compact htext
    cases b with
    | bool answer' =>
      cases answer <;> cases answer' <;> simp_all [compact, debug_bool]
    | _ => cases hkind
  | char letter, b, xs, ys, hxs, hys, htext => by
    have hkind := kind_eq_of_compact htext
    cases b with
    | char letter' =>
      obtain ⟨rfl, hrest⟩ := Escape.quotedLetter_append_inj (by simpa [compact, debug] using htext)
      exact ⟨rfl, hrest⟩
    | _ => cases hkind
  | text letters, b, xs, ys, hxs, hys, htext => by
    have hkind := kind_eq_of_compact htext
    cases b with
    | text letters' =>
      obtain ⟨hletters, hrest⟩ := Escape.quoted_append_inj (by simpa [compact, debug] using htext)
      exact ⟨congrArg text (String.toList_inj.mp hletters), hrest⟩
    | _ => cases hkind
  | absent, b, xs, ys, hxs, hys, htext => by
    have hkind := kind_eq_of_compact htext
    cases b with
    | absent => simpa [compact, debug] using htext
    | present b => simp [compact, debug] at htext
    | _ => cases hkind
  | present a, b, xs, ys, hxs, hys, htext => by
    have hkind := kind_eq_of_compact htext
    cases b with
    | absent => simp [compact, debug] at htext
    | present b =>
      have hends (rest : List Char) : Stops (ending alternate false ++ rest) :=
        stops_compactTail (isEnding_ending alternate false) .nil rest
      obtain ⟨rfl, hrest⟩ := compact_append_inj a b (hends xs) (hends ys)
        (by simpa [compact] using htext)
      exact ⟨rfl, List.append_cancel_left hrest⟩
    | _ => cases hkind
  | tuple .nil, b, xs, ys, hxs, hys, htext => by
    have hkind := kind_eq_of_compact htext
    cases b with
    | tuple t =>
      cases t with
      | nil => simpa [compact] using htext
      | cons b t => exact absurd (by simpa [compact] using htext) (ne_compact rfl alternate b _)
    | _ => cases hkind
  | @tuple (n + 1) (.cons a s), b, xs, ys, hxs, hys, htext => by
    have hkind := kind_eq_of_compact htext
    cases b with
    | tuple t =>
      cases t with
      | nil => exact absurd (by simpa [compact] using htext.symm) (ne_compact rfl alternate a _)
      | @cons m b t =>
        have hends := isEnding_ending alternate (n == 0)
        have hends' := isEnding_ending alternate (m == 0)
        obtain ⟨rfl, hrest⟩ := compact_append_inj a b (stops_compactTail hends s xs)
          (stops_compactTail hends' t ys) (by simpa [compact] using htext)
        obtain ⟨hslots, hrest⟩ := compactTail_append_inj hends hends' s t hrest
        exact ⟨tuple_eq_of_toList_eq (congrArg (a :: ·) hslots), hrest⟩
    | _ => cases hkind

theorem compactTail_append_inj {last last' : List Char} (hlast : IsEnding alternate last)
    (hlast' : IsEnding alternate last') {n m : Nat} : (s : Tuple Value n) → (t : Tuple Value m) →
    {xs ys : List Char} →
    compactTail alternate last s ++ xs = compactTail alternate last' t ++ ys →
      s.toList = t.toList ∧ xs = ys
  | .nil, .nil, xs, ys, hsame => by
    obtain rfl | ⟨-, rfl⟩ := hlast <;> obtain rfl | ⟨-, rfl⟩ := hlast' <;>
      simp_all [compactTail]
  | .nil, .cons b t, xs, ys, hsame => by
    refine absurd ?_ (ending_append_ne hlast b xs (compactTail alternate last' t ++ ys))
    simpa [compactTail] using hsame
  | .cons a s, .nil, xs, ys, hsame => by
    refine absurd ?_ (ending_append_ne hlast' a ys (compactTail alternate last s ++ xs))
    simpa [compactTail] using hsame.symm
  | .cons a s, .cons b t, xs, ys, hsame => by
    have hparts : compact alternate a ++ (compactTail alternate last s ++ xs) =
        compact alternate b ++ (compactTail alternate last' t ++ ys) := by
      simpa [compactTail] using hsame
    obtain ⟨rfl, hrest⟩ := compact_append_inj a b (stops_compactTail hlast s xs)
      (stops_compactTail hlast' t ys) hparts
    obtain ⟨hslots, hends⟩ := compactTail_append_inj hlast hlast' s t hrest
    exact ⟨congrArg (a :: ·) hslots, hends⟩

end

theorem compact_injective (alternate : Bool) : Function.Injective (compact alternate) :=
  fun a b htext =>
    (@compact_append_inj alternate a b [] [] nofun nofun (congrArg (· ++ []) htext)).1

/-- No two values have the same debug form, in a row or spread out. -/
theorem debug_injective (alternate : Bool) : Function.Injective (debug { alternate }) := by
  intro a b htext
  cases alternate with
  | false =>
    apply compact_injective false
    rw [← debug_eq_compact a, htext, debug_eq_compact b]
  | true =>
    apply compact_injective true
    have hjoined := congrArg (fun text => Layout.joinLines false (text ++ [])) htext
    simp only [joinLines_debug] at hjoined
    simpa [Layout.joinLines] using hjoined

end Value

namespace Tuple

/-- The debug form of tuples is unambiguous: those of the same text have the same arity and
    the same slots, and so have the tuples in their slots, to any depth. -/
theorem debug_unambiguous (alternate : Bool) {n m : Nat} (s : Tuple Value n)
    (t : Tuple Value m) :
    s.debug { alternate } = t.debug { alternate } ↔ n = m ∧ s.toList = t.toList := by
  rw [debug, debug, (Value.debug_injective alternate).eq_iff]
  constructor
  · rintro ⟨⟩
    exact ⟨rfl, rfl⟩
  · rintro ⟨-, hslots⟩
    exact Value.tuple_eq_of_toList_eq hslots

end Tuple

end Polyad
