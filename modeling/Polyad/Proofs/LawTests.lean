import Polyad.LawTests
import Polyad.Proofs.Lexical.Digits
/-!
What the samples of the law tests say. A sample whose numbers are words is spelled as
the tuple of these numbers, one after the other, and its text can be read in one way
only. So the assertion that is written about joining two samples is about a list that
is joined from theirs.
-/

namespace Polyad

open Number

namespace Sample

/-- Whether every number of a sample is a word. -/
def Fits (s : Sample) : Prop :=
  s.arity = 0 ∨ s.start + s.arity - 1 < wordCount

/-- The text of the tuple of some numbers. -/
def spelled (numbers : List Nat) : String :=
  "Tuple" ++ toString numbers.length ++ "::of(" ++
    ", ".intercalate (numbers.map fun number => toString number ++ "u32") ++ ")"

section Numbers

variable {s : Sample}

theorem fits_iff : s.Fits ↔ ∀ offset ∈ List.range s.arity, s.start + offset < wordCount := by
  simp only [List.mem_range]
  constructor
  · rintro hfits offset hoffset
    obtain hzero | hlast := hfits
    · omega
    · omega
  · intro hwords
    by_cases hzero : s.arity = 0
    · exact .inl hzero
    · have hlast := hwords (s.arity - 1) (by omega)
      exact .inr (by omega)

/-- Adding stops at the first sum that is no word. -/
theorem mapM_addWords_of_words {start : Nat} {offsets : List Nat}
    (hwords : ∀ offset ∈ offsets, start + offset < wordCount) :
    offsets.mapM (addWords start) = .ok (offsets.map (start + ·)) := by
  induction offsets with
  | nil => rfl
  | cons offset rest ih =>
    obtain ⟨hoffset, hrest⟩ := List.forall_mem_cons.mp hwords
    rw [List.mapM_cons, addWords, if_pos hoffset, ih hrest]
    rfl

theorem mapM_addWords_of_overflow {start : Nat} {offsets : List Nat}
    (hoverflow : ¬ ∀ offset ∈ offsets, start + offset < wordCount) :
    offsets.mapM (addWords start) = .error .add := by
  induction offsets with
  | nil => simp at hoverflow
  | cons offset rest ih =>
    rw [List.mapM_cons, addWords]
    by_cases hoffset : start + offset < wordCount
    · have hrest : ¬ ∀ offset ∈ rest, start + offset < wordCount := fun hrest =>
        hoverflow (List.forall_mem_cons.mpr ⟨hoffset, hrest⟩)
      rw [if_pos hoffset, ih hrest]
      rfl
    · rw [if_neg hoffset]
      rfl

theorem render_of_fits (hfits : s.Fits) :
    s.render = .ok (spelled (List.range' s.start s.arity)) := by
  have hnumbers : s.numbers = .ok (List.range' s.start s.arity) := by
    rw [numbers, mapM_addWords_of_words (fits_iff.mp hfits), List.range_eq_range',
      List.map_add_range', Nat.add_zero]
  rw [render, hnumbers]
  simp [Except.map, spelled, commas, Code.tupleName]

theorem render_of_not_fits (hfits : ¬ s.Fits) : s.render = .error .add := by
  have hnumbers : s.numbers = .error .add :=
    mapM_addWords_of_overflow (mt fits_iff.mpr hfits)
  rw [render, hnumbers]
  rfl

theorem render_eq_ok_iff {text : String} :
    s.render = .ok text ↔ s.Fits ∧ text = spelled (List.range' s.start s.arity) := by
  by_cases hfits : s.Fits
  · simp [render_of_fits hfits, hfits, eq_comm]
  · simp [render_of_not_fits hfits, hfits]

end Numbers

section Reading

/-- A number as an argument. -/
def argument (number : Nat) : List Char :=
  Nat.toDigits 10 number ++ "u32".toList

theorem argument_append_inj {x y : Nat} {xs ys : List Char}
    (htext : argument x ++ xs = argument y ++ ys) : x = y ∧ xs = ys := by
  have hstops : ∀ rest, Stops ("u32".toList ++ rest) := by
    rintro rest c ⟨⟩
    decide
  simp only [argument, List.append_assoc] at htext
  obtain ⟨hnumber, hrest⟩ :=
    toDigits_append_inj (by decide) (by decide) (hstops xs) (hstops ys) htext
  exact ⟨hnumber, List.append_cancel_left hrest⟩

/-- The arguments behind the first one. -/
def laterArguments (numbers : List Nat) : List Char :=
  numbers.flatMap fun number => ", ".toList ++ argument number

theorem laterArguments_injective {xs ys : List Nat}
    (htext : laterArguments xs = laterArguments ys) : xs = ys := by
  induction xs generalizing ys with
  | nil =>
    cases ys with
    | nil => rfl
    | cons y ys => cases htext
  | cons x xs ih =>
    cases ys with
    | nil => cases htext
    | cons y ys =>
      simp only [laterArguments, List.flatMap_cons, List.append_assoc] at htext
      obtain ⟨rfl, hrest⟩ := argument_append_inj (List.append_cancel_left htext)
      rw [ih hrest]

theorem intercalate_argument (number : Nat) (later : List Nat) :
    ", ".toList.intercalate ((number :: later).map argument) =
      argument number ++ laterArguments later := by
  induction later generalizing number with
  | nil => simp [laterArguments]
  | cons next later ih =>
    rw [List.map_cons, List.map_cons, List.intercalate_cons_cons, ← List.map_cons, ih next]
    simp [laterArguments]

theorem toList_spelled (numbers : List Nat) :
    (spelled numbers).toList = "Tuple".toList ++ (Nat.toDigits 10 numbers.length ++
      ("::of(".toList ++ (", ".toList.intercalate (numbers.map argument) ++ ")".toList))) := by
  have hnumbers : (numbers.map fun number => toString number ++ "u32").map String.toList =
      numbers.map argument := by
    simp [argument, Nat.toString_eq_repr]
  rw [← hnumbers]
  simp [spelled, Nat.toString_eq_repr, String.toList_intercalate]

/-- No text is that of two lists of numbers. -/
theorem spelled_injective {xs ys : List Nat} (htext : spelled xs = spelled ys) : xs = ys := by
  have hlist := congrArg String.toList htext
  have hstops : ∀ rest, Stops ("::of(".toList ++ rest) := by
    rintro rest c ⟨⟩
    decide
  rw [toList_spelled, toList_spelled] at hlist
  obtain ⟨hlength, hrest⟩ := toDigits_append_inj (by decide) (by decide) (hstops _) (hstops _)
    (List.append_cancel_left hlist)
  have harguments := List.append_cancel_right (List.append_cancel_left hrest)
  cases xs with
  | nil => exact (List.length_eq_zero_iff.mp hlength.symm).symm
  | cons x xs =>
    cases ys with
    | nil => cases hlength
    | cons y ys =>
      rw [intercalate_argument, intercalate_argument] at harguments
      obtain ⟨rfl, hlater⟩ := argument_append_inj harguments
      rw [laterArguments_injective hlater]

end Reading

/-- How a sample is spelled, and when it is. -/
structure Rendered (s : Sample) : Prop where
  completes : (∃ text, s.render = .ok text) ↔ s.Fits
  stops : ¬ s.Fits → s.render = .error .add
  text : s.Fits → s.render = .ok (spelled (List.range' s.start s.arity))
  type : s.type = if s.arity = 0 then "Tuple0" else
    "Tuple" ++ toString s.arity ++ "<" ++ ", ".intercalate (List.replicate s.arity "u32") ++ ">"

theorem rendered (s : Sample) : s.Rendered where
  completes := by simp [render_eq_ok_iff]
  stops := render_of_not_fits
  text := render_of_fits
  type := rfl

/-- The text of a sample gives it away, unless it has no numbers. -/
theorem eq_of_render_eq {a b : Sample} {text : String} (ha : a.render = .ok text)
    (hb : b.render = .ok text) (harity : 1 ≤ a.arity) : a = b := by
  obtain ⟨-, rfl⟩ := render_eq_ok_iff.mp ha
  obtain ⟨-, htext⟩ := render_eq_ok_iff.mp hb
  have hnumbers := spelled_injective htext
  have harities : a.arity = b.arity := by simpa using congrArg List.length hnumbers
  have hstarts : a.start = b.start := by
    have hfirst := congrArg List.head? hnumbers
    rw [List.head?_range', List.head?_range', if_neg (by omega), if_neg (by omega)] at hfirst
    exact Option.some.inj hfirst
  cases a
  cases b
  simp_all

/-- Two samples whose numbers, one after the other, are those of a third one. -/
structure Split (n m start : Nat) (left right : List Nat) : Prop where
  length_left : left.length = n
  length_right : right.length = m
  render_left : (Sample.mk n start).render = .ok (spelled left)
  render_right : (Sample.mk m (start + n)).render = .ok (spelled right)
  render_append : (Sample.mk (n + m) start).render = .ok (spelled (left ++ right))

theorem exists_split {n m start : Nat} (hfits : (Sample.mk (n + m) start).Fits) :
    ∃ left right, Split n m start left right := by
  have hleft : (Sample.mk n start).Fits := by
    simp only [Fits] at hfits ⊢
    omega
  have hright : (Sample.mk m (start + n)).Fits := by
    simp only [Fits] at hfits ⊢
    omega
  refine ⟨List.range' start n, List.range' (start + n) m, ?_⟩
  exact
    { length_left := List.length_range'
      length_right := List.length_range'
      render_left := render_of_fits hleft
      render_right := render_of_fits hright
      render_append := by
        rw [List.range'_append_1]
        exact render_of_fits hfits }

end Sample

namespace LawTests

open Sample

/-- What is asserted about joining two samples is about joining two lists. -/
theorem joinLines_of_split {n m : Nat} {left right : List Nat} (hsplit : Split n m 0 left right) :
    joinLines n m = .ok
      [equation (spelled left ++ ".concat(" ++ spelled right ++ ")") (spelled (left ++ right)),
        equation (spelled left ++ ".concat_opt(None::<" ++ (Sample.mk m n).type ++ ">).arity()")
          (toString (left ++ right).length)] := by
  have hright := hsplit.render_right
  rw [Nat.zero_add] at hright
  rw [joinLines, hsplit.render_left, hright, hsplit.render_append, List.length_append,
    hsplit.length_left, hsplit.length_right]
  rfl

/-- Every sample whose numbers are words is spelled as the list of them and no other is spelled
    at all, the parts of a sample are spelled as parts of its list, and so they are in the
    assertions about joining; and no two samples with numbers have the same text. -/
theorem samples_join_as_lists :
    (∀ s : Sample, s.Rendered) ∧
    (∀ n m start, (Sample.mk (n + m) start).Fits →
      ∃ left right, Split n m start left right ∧
        (start = 0 → joinLines n m = .ok
          [equation (spelled left ++ ".concat(" ++ spelled right ++ ")") (spelled (left ++ right)),
            equation (spelled left ++ ".concat_opt(None::<" ++ (Sample.mk m n).type ++ ">).arity()")
              (toString (left ++ right).length)])) ∧
    (∀ xs ys, spelled xs = spelled ys → xs = ys) ∧
    ∀ (a b : Sample) (x y : String), a.render = .ok x → b.render = .ok y → 1 ≤ a.arity → a ≠ b →
      x ≠ y := by
  refine ⟨rendered, ?_, fun xs ys => spelled_injective, ?_⟩
  · intro n m start hfits
    obtain ⟨left, right, hsplit⟩ := exists_split hfits
    refine ⟨left, right, hsplit, ?_⟩
    rintro rfl
    exact joinLines_of_split hsplit
  · rintro a b x y ha hb harity hne rfl
    exact hne (eq_of_render_eq ha hb harity)

/-- Two numbers at the end of the words, one in each part, and two samples of different
    arities. -/
theorem samples_join_as_lists_last_words :
    (Sample.mk 2 18446744073709551614).Fits ∧
    (∃ left right, Split 1 1 18446744073709551614 left right) ∧
    (Sample.mk 1 23).render = .ok "Tuple1::of(23u32)" ∧
    (Sample.mk 2 3).render = .ok "Tuple2::of(3u32, 4u32)" ∧
    "Tuple1::of(23u32)" ≠ "Tuple2::of(3u32, 4u32)" := by
  have hfits : (Sample.mk (1 + 1) 18446744073709551614).Fits := .inr (by decide)
  have hfirst : (Sample.mk 1 23).render = .ok "Tuple1::of(23u32)" := by rfl
  have hsecond : (Sample.mk 2 3).render = .ok "Tuple2::of(3u32, 4u32)" := by rfl
  obtain ⟨left, right, hsplit, -⟩ := samples_join_as_lists.2.1 1 1 18446744073709551614 hfits
  exact ⟨hfits, ⟨left, right, hsplit⟩, hfirst, hsecond,
    samples_join_as_lists.2.2.2 _ _ _ _ hfirst hsecond (by decide) (by decide)⟩

end LawTests

end Polyad
