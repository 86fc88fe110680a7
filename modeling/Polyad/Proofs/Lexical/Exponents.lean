import Polyad.Proofs.Lexical.Integers
/-!
What keeps a decimal from being an integer. A suffix that begins like an exponent
makes it a number with an exponent, unless what stands behind the digits of that
exponent can neither end it nor be a suffix of its own.
-/

namespace Polyad.Number

/-- Whether a suffix is an exponent and perhaps a suffix behind it. -/
def IsExponent : List Char → Prop
  | [] => False
  | c :: rest =>
    (c = 'e' ∨ c = 'E') ∧ (∃ d ∈ rest.takeWhile isDigit, d ≠ '_') ∧
      ∀ a ∈ (rest.dropWhile isDigit).head?, Alphabet.isStart a = true

/-- What may follow an integer without becoming a part of a number. -/
structure Apart (rest : List Char) : Prop where
  word : Identifier.continues rest = false
  sign : ∀ c ∈ rest.head?, c ≠ '.' ∧ c ≠ '+' ∧ c ≠ '-'

theorem isDigit_underscore : isDigit '_' = true := by decide

theorem isContinue_of_isDigit {c : Char} (hc : isDigit c = true) :
    Alphabet.isContinue c = true := by
  rw [isDigit, Bool.or_eq_true, beq_iff_eq] at hc
  obtain hc | rfl := hc
  · refine isContinue_of_hexValue? (d := c.toNat - '0'.toNat) ?_
    rw [Quoted.hexValue?, if_pos hc]
  · decide

theorem exponent?_eq (signed digits : Bool) {cs : List Char}
    (hsign : ∀ c ∈ (cs.dropWhile isDigit).head?, c ≠ '+' ∧ c ≠ '-') :
    exponent? signed digits cs =
      if digits || (cs.takeWhile isDigit).any (· != '_') then some (cs.dropWhile isDigit)
      else none := by
  induction cs generalizing digits with
  | nil => simp [exponent?]
  | cons c cs ih =>
    rw [exponent?]
    by_cases hdecimal : c.isDigit = true
    · have hdigit : isDigit c = true := by rw [isDigit, hdecimal, Bool.true_or]
      have hmark : c ≠ '_' := by
        rintro rfl
        cases hdecimal
      rw [List.dropWhile_cons_of_pos hdigit] at hsign
      rw [if_pos hdecimal, ih true hsign, List.takeWhile_cons_of_pos hdigit,
        List.dropWhile_cons_of_pos hdigit]
      simp [hmark]
    · by_cases hmark : c = '_'
      · subst hmark
        rw [List.dropWhile_cons_of_pos isDigit_underscore] at hsign
        rw [if_neg hdecimal, if_pos rfl, ih digits hsign,
          List.takeWhile_cons_of_pos isDigit_underscore,
          List.dropWhile_cons_of_pos isDigit_underscore, List.any_cons, bne_self_eq_false,
          Bool.false_or]
      · have hdigit : ¬ isDigit c = true := by simp [isDigit, hdecimal, hmark]
        rw [List.dropWhile_cons_of_neg hdigit] at hsign
        obtain ⟨hplus, hminus⟩ := hsign c rfl
        rw [if_neg hdecimal, if_neg hmark, if_neg (by simp [hplus, hminus]),
          List.takeWhile_cons_of_neg hdigit, List.dropWhile_cons_of_neg hdigit, List.any_nil,
          Bool.or_false]

section Decimals

variable {rest : List Char}

theorem isDigit_of_digitOf {c : Char} (hc : DigitOf 10 c) : c.isDigit = true := by
  obtain ⟨d, hd, hvalue⟩ := hc
  rw [Quoted.hexValue?] at hvalue
  split at hvalue
  · assumption
  · exfalso
    split at hvalue
    · cases hvalue
      omega
    · split at hvalue <;> cases hvalue
      omega

/-- A decimal begins with a digit, not with an underscore. -/
theorem Digits.exists_decimal_head {body : List Char} (h : Digits 10 body) :
    ∃ first tail, body = first :: tail ∧ first.isDigit = true := by
  cases body with
  | nil => exact absurd rfl h.ne_nil
  | cons first tail =>
    refine ⟨first, tail, rfl, isDigit_of_digitOf ((h.all first List.mem_cons_self).resolve_left ?_)⟩
    rintro rfl
    exact h.lead rfl rfl

theorem head_not_isDigit (hrest : Identifier.continues rest = false) :
    ∀ c ∈ rest.head?, ¬ isDigit c = true := by
  intro c hc hdigit
  have hcontinue := Identifier.head_not_isContinue hrest c hc
  rw [isContinue_of_isDigit hdigit] at hcontinue
  cases hcontinue

theorem dropWhile_isDigit_append (hrest : Identifier.continues rest = false) (cs : List Char) :
    (cs ++ rest).dropWhile isDigit = cs.dropWhile isDigit ++ rest := by
  have hdrop : rest.dropWhile isDigit = rest := by
    cases rest with
    | nil => rfl
    | cons c rest => exact List.dropWhile_cons_of_neg (head_not_isDigit hrest c rfl)
  rw [List.dropWhile_append, hdrop]
  split
  · rename_i hempty
    rw [List.isEmpty_iff.mp hempty, List.nil_append]
  · rfl

theorem takeWhile_isDigit_append (hrest : Identifier.continues rest = false) (cs : List Char) :
    (cs ++ rest).takeWhile isDigit = cs.takeWhile isDigit := by
  have htake : rest.takeWhile isDigit = [] := by
    cases rest with
    | nil => rfl
    | cons c rest => exact List.takeWhile_cons_of_neg (head_not_isDigit hrest c rfl)
  rw [List.takeWhile_append, htake, List.append_nil]
  split
  · exact ((List.takeWhile_prefix isDigit).eq_of_length ‹_›).symm
  · rfl

/-- Digits that begin with a digit are the digits of a number, up to where they end. -/
theorem dropWhile_isDigit_cons {first : Char} {body tail : List Char} (hfirst : first.isDigit = true)
    (hbody : ∀ c ∈ body, isDigit c = true) (htail : ∀ c ∈ tail.head?, isDigit c = false) :
    (first :: (body ++ tail)).dropWhile isDigit = tail := by
  have hlead : isDigit first = true := by rw [isDigit, hfirst, Bool.true_or]
  rw [List.dropWhile_cons_of_pos hlead, List.dropWhile_append_of_pos hbody]
  cases tail with
  | nil => rfl
  | cons c tail => exact List.dropWhile_cons_of_neg (by simp [htail c rfl])

theorem decimal?_of_dropWhile {first : Char} {cs tail : List Char}
    (hdrop : (first :: cs).dropWhile isDigit = tail)
    (htail : ∀ c ∈ tail.head?, c ∉ ['.', 'e', 'E']) : decimal? (first :: cs) = none := by
  have hfraction : fraction? (first :: cs) = none := by
    simp only [fraction?, hdrop]
    split
    · rfl
    · split
      · exact absurd (by decide) (htail '.' rfl)
      · exact absurd (by decide) (htail 'e' rfl)
      · exact absurd (by decide) (htail 'E' rfl)
      · rfl
  rw [decimal?, hfraction, Option.bind_none]

theorem decimal?_of_exponent {first c : Char} {cs behind : List Char}
    (hfirst : first.isDigit = true) (hletter : c = 'e' ∨ c = 'E')
    (hdrop : (first :: cs).dropWhile isDigit = c :: behind) :
    decimal? (first :: cs) = (exponent? false false behind).bind end? := by
  have hdigit : ¬ (!first.isDigit) = true := by simp [hfirst]
  obtain rfl | rfl := hletter <;> simp only [decimal?, fraction?, if_neg hdigit, hdrop]

/-- Behind the digits of an exponent a number ends, unless a character of an identifier
    that can begin none stands there. -/
theorem end?_eq_none_iff (hrest : Identifier.continues rest = false) {tail : List Char}
    (htail : ∀ a ∈ tail, Alphabet.isContinue a = true) : end? (tail ++ rest) = none ↔
      ∃ a ∈ tail.head?, Alphabet.isStart a = false := by
  cases tail with
  | nil =>
    rw [end?_append (.inl rfl) hrest]
    simp
  | cons a tail =>
    cases hstart : Alphabet.isStart a with
    | true =>
      have hname : Identifier.IsName (a :: tail) :=
        ⟨hstart, fun c hc => htail c (List.mem_cons_of_mem _ hc)⟩
      rw [end?_append (.inr hname) hrest]
      simp [hstart]
    | false =>
      have hskip : Identifier.skip (a :: tail ++ rest) = a :: tail ++ rest :=
        Identifier.skip_of_not_isStart (by simpa using hstart)
      have hgoes : Identifier.continues (a :: tail ++ rest) = true := htail a List.mem_cons_self
      rw [end?, hskip, if_pos hgoes]
      simp [hstart]

end Decimals

theorem isContinue_of_isName {name : List Char} (hname : name = [] ∨ Identifier.IsName name) :
    ∀ a ∈ name, Alphabet.isContinue a = true := by
  obtain rfl | hname := hname
  · simp
  · cases name with
    | nil => exact hname.elim
    | cons c tail =>
      exact List.forall_mem_cons.mpr ⟨Identifier.isContinue_of_isStart hname.1, hname.2⟩

theorem exponent?_append {tail rest : List Char} (hrest : Apart rest)
    (htail : ∀ a ∈ tail, Alphabet.isContinue a = true) :
    (exponent? false false (tail ++ rest)).bind end? = none ↔
      ¬ ((∃ d ∈ tail.takeWhile isDigit, d ≠ '_') ∧
        ∀ a ∈ (tail.dropWhile isDigit).head?, Alphabet.isStart a = true) := by
  have hafter : ∀ a ∈ tail.dropWhile isDigit, Alphabet.isContinue a = true := fun a ha =>
    htail a ((List.dropWhile_suffix isDigit).subset ha)
  -- A sign belongs neither to a suffix nor to what may follow an integer.
  have hsign : ∀ c ∈ ((tail ++ rest).dropWhile isDigit).head?, c ≠ '+' ∧ c ≠ '-' := by
    rw [dropWhile_isDigit_append hrest.word]
    intro c hc
    cases hdrop : tail.dropWhile isDigit with
    | nil =>
      rw [hdrop, List.nil_append] at hc
      exact (hrest.sign c hc).2
    | cons a after =>
      rw [hdrop] at hc hafter
      obtain rfl : a = c := Option.some.inj hc
      have hcontinue := hafter a List.mem_cons_self
      constructor <;> (rintro rfl; revert hcontinue; decide)
  rw [exponent?_eq false false hsign, dropWhile_isDigit_append hrest.word,
    takeWhile_isDigit_append hrest.word, Bool.false_or]
  by_cases hdigits : (tail.takeWhile isDigit).any (· != '_') = true
  · rw [if_pos hdigits, Option.bind_some, end?_eq_none_iff hrest.word hafter]
    simp only [List.any_eq_true, bne_iff_ne] at hdigits
    simp [hdigits]
  · rw [if_neg hdigits]
    simp only [List.any_eq_true, bne_iff_ne] at hdigits
    simp [hdigits]

/-- A decimal with a suffix is no integer exactly if the suffix is an exponent. -/
theorem decimal?_append {first : Char} {body suffix rest : List Char}
    (hfirst : first.isDigit = true) (hbody : ∀ c ∈ body, isDigit c = true)
    (hname : suffix = [] ∨ Identifier.IsName suffix) (hends : Ends 10 suffix)
    (hrest : Apart rest) :
    decimal? (first :: (body ++ (suffix ++ rest))) = none ↔ ¬ IsExponent suffix := by
  have htail : ∀ c ∈ (suffix ++ rest).head?, isDigit c = false := by
    intro c hc
    obtain ⟨hmark, -, hdecimal⟩ := ends_append hends hrest.word c hc
    simp [isDigit, hmark, hdecimal]
  have hdrop := dropWhile_isDigit_cons hfirst hbody htail
  cases suffix with
  | nil =>
    have hhead : ∀ c ∈ rest.head?, c ∉ ['.', 'e', 'E'] := by
      intro c hc hmem
      have hcontinue := Identifier.head_not_isContinue hrest.word c hc
      simp only [List.mem_cons, List.not_mem_nil, or_false] at hmem
      obtain rfl | rfl | rfl := hmem
      · exact (hrest.sign '.' hc).1 rfl
      · revert hcontinue
        decide
      · revert hcontinue
        decide
    rw [decimal?_of_dropWhile hdrop hhead]
    simp [IsExponent]
  | cons c tail =>
    have hcontinue := isContinue_of_isName hname
    rw [List.cons_append] at hdrop
    by_cases hletter : c = 'e' ∨ c = 'E'
    · rw [List.cons_append, decimal?_of_exponent hfirst hletter hdrop,
        exponent?_append hrest fun a ha => hcontinue a (List.mem_cons_of_mem _ ha)]
      simp [IsExponent, hletter]
    · have hhead : ∀ a ∈ (c :: (tail ++ rest)).head?, a ∉ ['.', 'e', 'E'] := by
        rintro _ ⟨⟩
        have hpoint : c ≠ '.' := by
          rintro rfl
          have := hcontinue '.' List.mem_cons_self
          revert this
          decide
        rw [not_or] at hletter
        simp [hpoint, hletter]
      rw [List.cons_append, decimal?_of_dropWhile hdrop hhead]
      simp [IsExponent, hletter]

/-- An integer is taken for a decimal exactly where its base is ten and its suffix is an
    exponent. -/
theorem Parts.decimal?_eq_none_iff {b : Nat} {body suffix rest : List Char}
    (h : Parts b body suffix) (hrest : Apart rest) :
    decimal? (mark b ++ (body ++ (suffix ++ rest))) = none ↔ (b = 10 → ¬ IsExponent suffix) := by
  by_cases hten : b = 10
  · subst hten
    obtain ⟨first, body, rfl, hfirst⟩ := h.digits.exists_decimal_head
    have hbody : ∀ c ∈ body, isDigit c = true := by
      intro c hc
      rw [isDigit, Bool.or_eq_true, beq_iff_eq]
      exact (h.digits.all c (List.mem_cons_of_mem _ hc)).symm.imp_left isDigit_of_digitOf
    have hmark : mark 10 ++ (first :: body ++ (suffix ++ rest)) =
        first :: (body ++ (suffix ++ rest)) := rfl
    rw [hmark, decimal?_append hfirst hbody h.name h.apart hrest]
    simp
  · have hother := h.base_mem_of_ne hten
    have hnone : decimal? (mark b ++ (body ++ (suffix ++ rest))) = none := by
      simp only [List.mem_cons, List.not_mem_nil, or_false] at hother
      obtain rfl | rfl | rfl := hother <;> rfl
    simp [hnone, hten]

end Polyad.Number
