import Mathlib.Data.List.Induction
import Mathlib.Data.List.TakeWhile
import Mathlib.Data.Nat.Digits.Defs
import Polyad.Proofs.Lexical.Digits
/-!
The spellings of integers. A spelling has a base with its mark, digits that may be
parted by underscores, and any identifier as a suffix. What is read from a text is
exactly a spelling and its value.
-/

namespace Polyad

namespace Number

/-- How a base is marked in front of the digits. -/
def mark : Nat → List Char
  | 16 => ['0', 'x']
  | 8 => ['0', 'o']
  | 2 => ['0', 'b']
  | _ => []

/-- Whether a character is a digit of a base. -/
def DigitOf (base : Nat) (c : Char) : Prop :=
  ∃ d < base, Quoted.hexValue? c = some d

/-- The values of the digits among some characters. -/
def digitValues (body : List Char) : List Nat :=
  body.filterMap Quoted.hexValue?

/-- Whether the digits of a base end where a text begins. -/
def Ends (base : Nat) (rest : List Char) : Prop :=
  ∀ c ∈ rest.head?, c ≠ '_' ∧ ¬ DigitOf base c ∧ c.isDigit = false

/-- Whether an underscore may not stand in front of the digits. -/
def NeedsDigit (base : Nat) (value : Option Nat) : Prop :=
  value = none ∧ base = 10

section Digits

variable {base : Nat}

@[simp] theorem digitValues_underscore (body : List Char) :
    digitValues ('_' :: body) = digitValues body :=
  List.filterMap_cons_none hexValue?_underscore

theorem digitValues_cons {c : Char} {d : Nat} (hvalue : Quoted.hexValue? c = some d)
    (body : List Char) : digitValues (c :: body) = d :: digitValues body :=
  List.filterMap_cons_some hvalue

theorem not_needsDigit_extend (value : Option Nat) (d : Nat) :
    ¬ NeedsDigit base (extend base value d) := by
  simp [NeedsDigit, extend]

theorem digits?_underscore {value : Option Nat} (hlead : ¬ NeedsDigit base value)
    (rest : List Char) : digits? base value ('_' :: rest) = digits? base value rest := by
  rw [digits?, if_pos rfl]
  exact if_neg hlead

theorem digits?_append {body : List Char} (hbody : ∀ c ∈ body, c = '_' ∨ DigitOf base c)
    {value : Option Nat} (hlead : NeedsDigit base value → body.head? ≠ some '_')
    (rest : List Char) :
    digits? base value (body ++ rest) =
      digits? base ((digitValues body).foldl (extend base) value) rest := by
  induction body generalizing value with
  | nil => rfl
  | cons c body ih =>
    have htail : ∀ c ∈ body, c = '_' ∨ DigitOf base c := fun c hc =>
      hbody c (List.mem_cons_of_mem _ hc)
    obtain rfl | ⟨d, hd, hvalue⟩ := hbody c List.mem_cons_self
    · have hstart : ¬ NeedsDigit base value := fun hneeds => hlead hneeds rfl
      rw [List.cons_append, digits?_underscore hstart, ih htail fun h => absurd h hstart,
        digitValues_underscore]
    · rw [List.cons_append, digits?_digit hd hvalue,
        ih htail fun h => absurd h (not_needsDigit_extend value d), digitValues_cons hvalue,
        List.foldl_cons]

theorem digits?_of_ends {rest : List Char} (hrest : Ends base rest) (value : Option Nat) :
    digits? base value rest = value.map fun value => (value, rest) := by
  cases rest with
  | nil => rfl
  | cons c rest =>
    obtain ⟨hmark, hdigit, hdecimal⟩ := hrest c rfl
    rw [digits?, if_neg hmark]
    cases hvalue : Quoted.hexValue? c with
    | none => rfl
    | some d =>
      have hlarge : ¬ d < base := fun hd => hdigit ⟨d, hd, hvalue⟩
      simp only [if_neg hlarge, hdecimal, Bool.false_eq_true, if_false]

theorem isDigit_eq_false {c : Char} (hvalue : Quoted.hexValue? c = none) : c.isDigit = false := by
  rw [Quoted.hexValue?] at hvalue
  cases hdecimal : c.isDigit with
  | false => rfl
  | true =>
    rw [if_pos hdecimal] at hvalue
    cases hvalue

theorem ends_of_digits?_cons {c : Char} {n : Nat} {value : Option Nat} {cs rest : List Char}
    (hmark : c ≠ '_') (hdigit : ¬ DigitOf base c)
    (hread : digits? base value (c :: cs) = some (n, rest)) :
    rest = c :: cs ∧ value = some n ∧ Ends base rest := by
  have hends (hdecimal : c.isDigit = false) : Ends base (c :: cs) := by
    rintro _ ⟨⟩
    exact ⟨hmark, hdigit, hdecimal⟩
  rw [digits?, if_neg hmark] at hread
  cases hvalue : Quoted.hexValue? c with
  | none =>
    simp only [hvalue, Option.map_eq_some_iff, Prod.mk.injEq] at hread
    obtain ⟨v, hv, rfl, rfl⟩ := hread
    exact ⟨rfl, hv, hends (isDigit_eq_false hvalue)⟩
  | some d =>
    have hlarge : ¬ d < base := fun hd => hdigit ⟨d, hd, hvalue⟩
    simp only [hvalue, if_neg hlarge] at hread
    cases hdecimal : c.isDigit with
    | true => simp [hdecimal] at hread
    | false =>
      simp only [hdecimal, Bool.false_eq_true, if_false, Option.map_eq_some_iff,
        Prod.mk.injEq] at hread
      obtain ⟨v, hv, rfl, rfl⟩ := hread
      exact ⟨rfl, hv, hends hdecimal⟩

/-- What is read as digits is digits, up to where they end. -/
theorem exists_body_of_digits? {n : Nat} {value : Option Nat} {cs rest : List Char}
    (hread : digits? base value cs = some (n, rest)) :
    ∃ body, cs = body ++ rest ∧ (∀ c ∈ body, c = '_' ∨ DigitOf base c) ∧
      (NeedsDigit base value → body.head? ≠ some '_') ∧ Ends base rest ∧
      (digitValues body).foldl (extend base) value = some n := by
  induction cs generalizing value with
  | nil =>
    simp only [digits?, Option.map_eq_some_iff, Prod.mk.injEq] at hread
    obtain ⟨v, hv, rfl, rfl⟩ := hread
    exact ⟨[], rfl, by simp, by simp, by simp [Ends], hv⟩
  | cons c cs ih =>
    by_cases hmark : c = '_'
    · subst hmark
      have hstart : ¬ NeedsDigit base value := by
        intro hneeds
        have hnone : digits? base value ('_' :: cs) = none := by
          rw [digits?, if_pos rfl]
          exact if_pos hneeds
        rw [hnone] at hread
        cases hread
      rw [digits?_underscore hstart] at hread
      obtain ⟨body, rfl, hbody, -, hrest, hvalue⟩ := ih hread
      refine ⟨'_' :: body, rfl, ?_, fun h => absurd h hstart, hrest, ?_⟩
      · exact List.forall_mem_cons.mpr ⟨.inl rfl, hbody⟩
      · rwa [digitValues_underscore]
    · by_cases hdigit : DigitOf base c
      · obtain ⟨d, hd, hhex⟩ := hdigit
        rw [digits?_digit hd hhex] at hread
        obtain ⟨body, rfl, hbody, -, hrest, hvalue⟩ := ih hread
        refine ⟨c :: body, rfl, ?_, fun _ => by simpa using hmark, hrest, ?_⟩
        · exact List.forall_mem_cons.mpr ⟨.inr ⟨d, hd, hhex⟩, hbody⟩
        · rwa [digitValues_cons hhex, List.foldl_cons]
      · obtain ⟨rfl, rfl, hrest⟩ := ends_of_digits?_cons hmark hdigit hread
        exact ⟨[], rfl, by simp, by simp, hrest, rfl⟩

/-- Reading digit by digit gives the number that the digits write. -/
theorem foldl_extend (ds : List Nat) :
    ds.foldl (extend base) none = if ds = [] then none else some (Nat.ofDigits base ds.reverse) := by
  induction ds using List.reverseRecOn with
  | nil => rfl
  | append_singleton ds d ih =>
    have hsome : ds ++ [d] ≠ [] := List.concat_ne_nil d ds
    rw [if_neg hsome, List.foldl_append, ih, List.reverse_append, List.reverse_singleton,
      List.singleton_append, Nat.ofDigits_cons, List.foldl_cons, List.foldl_nil, extend]
    by_cases hempty : ds = []
    · simp [hempty]
    · simp [hempty, Nat.mul_comm, Nat.add_comm]

/-- The digits of an integer, with underscores. -/
structure Digits (base : Nat) (body : List Char) : Prop where
  all : ∀ c ∈ body, c = '_' ∨ DigitOf base c
  nonempty : digitValues body ≠ []
  lead : base = 10 → body.head? ≠ some '_'

/-- The number that some digits write. -/
def numeral (base : Nat) (body : List Char) : Nat :=
  Nat.ofDigits base (digitValues body).reverse

theorem digits?_eq_some_iff {n : Nat} {cs rest : List Char} :
    digits? base none cs = some (n, rest) ↔
      ∃ body, cs = body ++ rest ∧ Digits base body ∧ n = numeral base body ∧ Ends base rest := by
  constructor
  · intro hread
    obtain ⟨body, rfl, hbody, hlead, hrest, hvalue⟩ := exists_body_of_digits? hread
    rw [foldl_extend, Option.ite_none_left_eq_some, Option.some.injEq] at hvalue
    exact ⟨body, rfl, ⟨hbody, hvalue.1, fun hten => hlead ⟨rfl, hten⟩⟩, hvalue.2.symm, hrest⟩
  · rintro ⟨body, rfl, hbody, rfl, hrest⟩
    rw [digits?_append hbody.all (fun hneeds => hbody.lead hneeds.2), foldl_extend,
      if_neg hbody.nonempty, digits?_of_ends hrest]
    rfl

end Digits

end Number

namespace Identifier

/-- Whether some characters make an identifier. -/
def IsName : List Char → Prop
  | [] => False
  | c :: rest => Alphabet.isStart c = true ∧ ∀ a ∈ rest, Alphabet.isContinue a = true

theorem isContinue_of_isStart {c : Char} (hstart : Alphabet.isStart c = true) :
    Alphabet.isContinue c = true := by
  rw [Alphabet.isStart, Bool.or_eq_true, beq_iff_eq] at hstart
  rw [Alphabet.isContinue, Bool.or_eq_true]
  obtain rfl | hstart := hstart
  · exact .inr (by decide)
  · exact .inl hstart

theorem head_not_isContinue {rest : List Char} (hrest : continues rest = false) :
    ∀ c ∈ rest.head?, Alphabet.isContinue c = false := by
  cases rest with
  | nil => simp
  | cons c rest =>
    rintro _ ⟨⟩
    exact hrest

theorem dropWhile_isContinue_append {tail rest : List Char}
    (htail : ∀ a ∈ tail, Alphabet.isContinue a = true) (hrest : continues rest = false) :
    (tail ++ rest).dropWhile Alphabet.isContinue = rest := by
  rw [List.dropWhile_append_of_pos htail]
  cases rest with
  | nil => rfl
  | cons c rest =>
    rw [List.dropWhile_cons, if_neg]
    exact ne_true_of_eq_false hrest

theorem skip_of_not_isStart {rest : List Char}
    (hrest : ∀ c ∈ rest.head?, Alphabet.isStart c = false) : skip rest = rest := by
  cases rest with
  | nil => rfl
  | cons c rest =>
    have hread : read? (c :: rest) = none := by
      rw [read?, if_neg (ne_true_of_eq_false (hrest c rfl))]
    rw [skip, hread]

theorem skip_isName_append {name rest : List Char} (hname : IsName name)
    (hrest : continues rest = false) : skip (name ++ rest) = rest := by
  cases name with
  | nil => exact hname.elim
  | cons c tail =>
    rw [List.cons_append, skip, read?, if_pos hname.1]
    exact dropWhile_isContinue_append hname.2 hrest

end Identifier

namespace Number

theorem end?_append {suffix rest : List Char} (hsuffix : suffix = [] ∨ Identifier.IsName suffix)
    (hrest : Identifier.continues rest = false) : end? (suffix ++ rest) = some rest := by
  have hskip : Identifier.skip (suffix ++ rest) = rest := by
    obtain rfl | hname := hsuffix
    · refine Identifier.skip_of_not_isStart fun c hc => ?_
      have hcontinue := Identifier.head_not_isContinue hrest c hc
      by_contra hstart
      rw [Identifier.isContinue_of_isStart (by simpa using hstart)] at hcontinue
      cases hcontinue
    · exact Identifier.skip_isName_append hname hrest
  rw [end?, hskip]
  exact if_neg (ne_true_of_eq_false hrest)

theorem exists_suffix_of_end? {cs rest : List Char} (hend : end? cs = some rest) :
    ∃ suffix, cs = suffix ++ rest ∧ (suffix = [] ∨ Identifier.IsName suffix) ∧
      Identifier.continues rest = false := by
  have hskip : Identifier.skip cs = rest ∧ Identifier.continues rest = false := by
    simp only [end?] at hend
    split at hend
    · cases hend
    · cases hend
      exact ⟨rfl, eq_false_of_ne_true ‹_›⟩
  obtain ⟨rfl, hrest⟩ := hskip
  cases cs with
  | nil => exact ⟨[], rfl, .inl rfl, hrest⟩
  | cons c tail =>
    by_cases hstart : Alphabet.isStart c = true
    · have hdrop : Identifier.skip (c :: tail) = tail.dropWhile Alphabet.isContinue := by
        rw [Identifier.skip, Identifier.read?, if_pos hstart]
      refine ⟨c :: tail.takeWhile Alphabet.isContinue, ?_, .inr ⟨hstart, ?_⟩, hrest⟩
      · rw [hdrop, List.cons_append, List.takeWhile_append_dropWhile]
      · exact fun a ha => List.mem_takeWhile_imp ha
    · have hsame : Identifier.skip (c :: tail) = c :: tail :=
        Identifier.skip_of_not_isStart (by simpa using hstart)
      exact ⟨[], by rw [hsame, List.nil_append], .inl rfl, hrest⟩

section Integers

/-- What an integer is made of: digits of a base, and a suffix that cannot be taken for
    more digits. A decimal does not begin like a number of another base. -/
structure Parts (base : Nat) (body suffix : List Char) : Prop where
  base_mem : base ∈ [2, 8, 10, 16]
  digits : Digits base body
  name : suffix = [] ∨ Identifier.IsName suffix
  apart : Ends base suffix
  unmarked : base = 10 → ∀ other ∈ [2, 8, 16], ¬ mark other <+: body ++ suffix

theorem base_of_mark {other : Nat} (hother : other ∈ [2, 8, 16]) (rest : List Char) :
    base (mark other ++ rest) = (other, rest) := by
  simp only [List.mem_cons, List.not_mem_nil, or_false] at hother
  obtain rfl | rfl | rfl := hother <;> rfl

theorem base_of_unmarked {cs : List Char} (hcs : ∀ other ∈ [2, 8, 16], ¬ mark other <+: cs) :
    base cs = (10, cs) := by
  unfold base
  split
  · exact absurd ⟨_, rfl⟩ (hcs 16 (by decide))
  · exact absurd ⟨_, rfl⟩ (hcs 8 (by decide))
  · exact absurd ⟨_, rfl⟩ (hcs 2 (by decide))
  · rfl

theorem mark_append_base (cs : List Char) :
    (base cs).1 ∈ [2, 8, 10, 16] ∧ cs = mark (base cs).1 ++ (base cs).2 := by
  unfold base
  split <;> exact ⟨by simp, rfl⟩

theorem isContinue_of_hexValue? {c : Char} {d : Nat} (hvalue : Quoted.hexValue? c = some d) :
    Alphabet.isContinue c = true := by
  have hpoints : ∀ n < 128, (48 ≤ n ∧ n ≤ 57) ∨ (97 ≤ n ∧ n ≤ 102) ∨ (65 ≤ n ∧ n ≤ 70) →
      (CodePoint.within n Alphabet.startRanges || CodePoint.within n Alphabet.continueRanges) =
        true := by decide
  have hletter (low high : Char) (hc : low ≤ c ∧ c ≤ high) :
      low.toNat ≤ c.toNat ∧ c.toNat ≤ high.toNat := hc
  have hrange : (48 ≤ c.toNat ∧ c.toNat ≤ 57) ∨ (97 ≤ c.toNat ∧ c.toNat ≤ 102) ∨
      (65 ≤ c.toNat ∧ c.toNat ≤ 70) := by
    rw [Quoted.hexValue?] at hvalue
    split at hvalue
    · rename_i hdigit
      rw [Char.isDigit, Bool.and_eq_true, decide_eq_true_iff, decide_eq_true_iff] at hdigit
      exact .inl hdigit
    · split at hvalue
      · exact .inr (.inl (hletter 'a' 'f' ‹_›))
      · split at hvalue
        · exact .inr (.inr (hletter 'A' 'F' ‹_›))
        · cases hvalue
  exact hpoints c.toNat (by omega) hrange

theorem ends_of_continues {base : Nat} {rest : List Char}
    (hrest : Identifier.continues rest = false) : Ends base rest := by
  intro c hc
  have hcontinue := Identifier.head_not_isContinue hrest c hc
  have hvalue : Quoted.hexValue? c = none := by
    cases hvalue : Quoted.hexValue? c with
    | none => rfl
    | some d =>
      rw [isContinue_of_hexValue? hvalue] at hcontinue
      cases hcontinue
  refine ⟨?_, ?_, isDigit_eq_false hvalue⟩
  · rintro rfl
    revert hcontinue
    decide
  · rintro ⟨d, -, hd⟩
    rw [hvalue] at hd
    cases hd

theorem ends_append {base : Nat} {suffix rest : List Char} (hsuffix : Ends base suffix)
    (hrest : Identifier.continues rest = false) : Ends base (suffix ++ rest) := by
  cases suffix with
  | nil => exact ends_of_continues hrest
  | cons c tail => exact hsuffix

theorem Digits.ne_nil {b : Nat} {body : List Char} (h : Digits b body) : body ≠ [] := by
  rintro rfl
  exact h.nonempty rfl

theorem exists_mark_eq {other : Nat} (hother : other ∈ [2, 8, 16]) :
    ∃ c, mark other = ['0', c] ∧ Alphabet.isContinue c = true := by
  simp only [List.mem_cons, List.not_mem_nil, or_false] at hother
  obtain rfl | rfl | rfl := hother
  · exact ⟨'b', rfl, by decide⟩
  · exact ⟨'o', rfl, by decide⟩
  · exact ⟨'x', rfl, by decide⟩

/-- What follows an integer cannot complete the mark of another base. -/
theorem mark_prefix_of_append {b other : Nat} {body suffix rest : List Char}
    (hbody : Digits b body) (hother : other ∈ [2, 8, 16])
    (hrest : Identifier.continues rest = false)
    (hmark : mark other <+: body ++ suffix ++ rest) : mark other <+: body ++ suffix := by
  obtain ⟨letter, hletters, hletter⟩ := exists_mark_eq hother
  rw [hletters] at hmark ⊢
  -- A mark has two characters, so only its letter could stand behind the suffix.
  have hsome : body ++ suffix ≠ [] := List.append_ne_nil_of_left_ne_nil hbody.ne_nil suffix
  cases htext : body ++ suffix with
  | nil => exact absurd htext hsome
  | cons first tail =>
    rw [htext] at hmark
    cases tail with
    | nil =>
      obtain ⟨after, hafter⟩ := hmark
      have htail : letter :: after = rest := (List.cons.inj hafter).2
      have hhead : rest.head? = some letter := htail ▸ rfl
      have hstop := Identifier.head_not_isContinue hrest letter hhead
      rw [hletter] at hstop
      cases hstop
    | cons second tail =>
      obtain ⟨after, hafter⟩ := hmark
      simp only [List.cons_append, List.cons.injEq] at hafter
      obtain ⟨rfl, rfl, -⟩ := hafter
      exact ⟨tail, rfl⟩

theorem Parts.base_mem_of_ne {b : Nat} {body suffix : List Char} (h : Parts b body suffix)
    (hten : b ≠ 10) : b ∈ [2, 8, 16] := by
  have hmem := h.base_mem
  simp only [List.mem_cons, List.not_mem_nil, or_false] at hmem ⊢
  omega

theorem Parts.base_eq {b : Nat} {body suffix rest : List Char} (h : Parts b body suffix)
    (hrest : Identifier.continues rest = false) :
    base (mark b ++ (body ++ (suffix ++ rest))) = (b, body ++ (suffix ++ rest)) := by
  by_cases hten : b = 10
  · subst hten
    refine base_of_unmarked fun other hother hmark => h.unmarked rfl other hother ?_
    refine mark_prefix_of_append h.digits hother hrest ?_
    rwa [List.append_assoc]
  · exact base_of_mark (h.base_mem_of_ne hten) _

theorem integer?_of_parts {b : Nat} {body suffix rest : List Char} (h : Parts b body suffix)
    (hrest : Identifier.continues rest = false) :
    integer? (mark b ++ (body ++ (suffix ++ rest))) = some (numeral b body, rest) := by
  have hdigits : digits? b none (body ++ (suffix ++ rest)) =
      some (numeral b body, suffix ++ rest) :=
    digits?_eq_some_iff.mpr ⟨body, rfl, h.digits, rfl, ends_append h.apart hrest⟩
  have hend := end?_append h.name hrest
  simp only [integer?, h.base_eq hrest, hdigits, hend, Option.map_some]

theorem parts_of_integer? {n : Nat} {cs rest : List Char} (hread : integer? cs = some (n, rest)) :
    ∃ b body suffix, Parts b body suffix ∧ cs = mark b ++ (body ++ (suffix ++ rest)) ∧
      n = numeral b body ∧ Identifier.continues rest = false := by
  obtain ⟨hmem, hcs⟩ := mark_append_base cs
  simp only [integer?] at hread
  cases hdigits : digits? (base cs).1 none (base cs).2 with
  | none => simp [hdigits] at hread
  | some read =>
    obtain ⟨value, after⟩ := read
    simp only [hdigits, Option.map_eq_some_iff, Prod.mk.injEq] at hread
    obtain ⟨rest, hend, rfl, rfl⟩ := hread
    obtain ⟨body, hbody, hwritten, rfl, hends⟩ := digits?_eq_some_iff.mp hdigits
    obtain ⟨suffix, rfl, hname, hcontinues⟩ := exists_suffix_of_end? hend
    rw [hbody] at hcs
    refine ⟨(base cs).1, body, suffix, ⟨hmem, hwritten, hname, ?_, ?_⟩, hcs, rfl, hcontinues⟩
    · cases suffix with
      | nil => simp [Ends]
      | cons c tail => exact hends
    · rintro hten other hother ⟨after, hafter⟩
      have hother' : base cs = (other, after ++ rest) := by
        have hall : cs = mark other ++ (after ++ rest) := by
          rw [hcs, hten, ← List.append_assoc (mark other), hafter, List.append_assoc]
          rfl
        rw [hall, base_of_mark hother]
      rw [hother'] at hten
      subst hten
      simp at hother

end Integers

end Number

end Polyad
