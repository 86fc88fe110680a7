import Polyad.Tuple.Append
import Polyad.Proofs.Order.Calls
import Polyad.Proofs.Order.PartialTuples
/-!
Comparing tuples that are joined from two parts. The first parts decide, and
the second ones are looked at only where the first ones are equal. Comparing
slots that may be incomparable is a comparator as well, one whose comparisons
may be left without an answer.
-/

namespace Polyad

universe u v

theorem then_of_ne {first : Ordering} (hdecided : first ≠ .eq) (rest : Ordering) :
    first.then rest = first := by
  cases first with
  | eq => exact absurd rfl hdecided
  | lt | gt => rfl

theorem thenM_id (first rest : Ordering) : thenM (m := Id) first rest = first.then rest := by
  cases first <;> rfl

theorem thenM_option (first rest : Option Ordering) :
    thenM first rest = if first = some .eq then rest else first := by
  cases first with
  | none => rfl
  | some answer => cases answer <;> rfl

theorem thenM_traced {ε : Type} (first rest : Traced ε Ordering) :
    thenM first rest =
      if first.value = .eq then ⟨rest.value, first.events ++ rest.events⟩ else first := by
  obtain ⟨answer, events⟩ := first
  cases answer with
  | eq => rfl
  | lt | gt => exact congrArg (Traced.mk _) (List.append_nil events)

namespace Tuple

variable {α : Type u} {n k : Nat}

section

variable {m : Type → Type v} [Monad m] [LawfulMonad m]

theorem comparatorM_append (cmps : Tuple (α → α → m Ordering) n)
    (ds : Tuple (α → α → m Ordering) k) (s s' : Tuple α n) (t t' : Tuple α k) :
    comparatorM (cmps.append ds) (s.append t) (s'.append t') =
      thenM (comparatorM cmps s s') (comparatorM ds t t') := by
  induction cmps, s, s' using induction₃ with
  | nil => rw [comparatorM_nil, pure_eq_thenM, append, append, append]
  | cons n cmp a b cmps s s' ih =>
    rw [append, append, append, comparatorM_cons, comparatorM_cons, ih, thenM_assoc]

theorem comparatorM_push (cmps : Tuple (α → α → m Ordering) n) (cmp : α → α → m Ordering)
    (s s' : Tuple α n) (a b : α) :
    comparatorM (cmps.push cmp) (s.push a) (s'.push b) =
      thenM (comparatorM cmps s s') (cmp a b) := by
  induction cmps, s, s' using induction₃ with
  | nil =>
    rw [push, push, push, comparatorM_cons, comparatorM_nil, thenM_pure_eq, pure_eq_thenM]
  | cons n c x y cmps s s' ih =>
    rw [push, push, push, comparatorM_cons, comparatorM_cons, ih, thenM_assoc]

end

theorem comparator_eq_comparatorM (cmps : Tuple (α → α → Ordering) n) (s t : Tuple α n) :
    comparator cmps s t = comparatorM (m := Id) cmps s t := by
  induction cmps, s, t using induction₃ with
  | nil => rfl
  | cons n cmp a b cmps s t ih =>
    rw [comparatorM_cons, comparator_cons, ih, thenM_id]

/-- Where things may be incomparable, the comparison of a slot may have no answer. -/
theorem partialCompare_eq_comparatorM (cmp : α → α → Option Ordering) (s t : Tuple α n) :
    partialCompare cmp s t = comparatorM (replicate n cmp) s t := by
  induction s, t using induction₂ with
  | nil => rfl
  | cons n a b s t ih =>
    rw [replicate, comparatorM_cons, ← ih, thenM_option]
    by_cases hhead : cmp a b = some .eq
    · rw [partialCompare_cons_of_eq hhead, if_pos hhead]
    · rw [partialCompare_cons_of_ne hhead, if_neg hhead]

theorem beq_append (eq : α → α → Bool) (s s' : Tuple α n) (t t' : Tuple α k) :
    beq eq (s.append t) (s'.append t') = (beq eq s s' && beq eq t t') := by
  induction s, s' using induction₂ with
  | nil => rfl
  | cons n a b s s' ih => rw [append, append, beq, beq, ih, Bool.and_assoc]

theorem replicate_append (value : α) (n k : Nat) :
    (replicate n value).append (replicate k value) = replicate (k + n) value := by
  induction n with
  | zero => rfl
  | succ n ih => exact congrArg (cons value) ih

theorem replicate_push (value : α) (n : Nat) :
    (replicate n value).push value = replicate (n + 1) value := by
  induction n with
  | zero => rfl
  | succ n ih => exact congrArg (cons value) ih

theorem recordEach_append {ε : Type} (event : Nat → α → α → Ordering → ε) (first : Nat)
    (cmps : Tuple (α → α → Ordering) n) (ds : Tuple (α → α → Ordering) k) :
    recordEach event first (cmps.append ds) =
      (recordEach event first cmps).append (recordEach event (first + n) ds) := by
  induction cmps generalizing first with
  | nil => rfl
  | @cons n cmp cmps ih =>
    rw [append, recordEach, recordEach, append, ih, Nat.add_right_comm]
    rfl

theorem comparator_append (cmps : Tuple (α → α → Ordering) n) (ds : Tuple (α → α → Ordering) k)
    (s s' : Tuple α n) (t t' : Tuple α k) :
    comparator (cmps.append ds) (s.append t) (s'.append t') =
      (comparator cmps s s').then (comparator ds t t') := by
  rw [← thenM_id]
  simp only [comparator_eq_comparatorM]
  exact comparatorM_append (m := Id) cmps ds s s' t t'

theorem comparator_push (cmps : Tuple (α → α → Ordering) n) (cmp : α → α → Ordering)
    (s s' : Tuple α n) (a b : α) :
    comparator (cmps.push cmp) (s.push a) (s'.push b) = (comparator cmps s s').then (cmp a b) := by
  rw [← thenM_id]
  simp only [comparator_eq_comparatorM]
  exact comparatorM_push (m := Id) cmps cmp s s' a b

theorem compareEach_append (cmp : α → α → Ordering) (s s' : Tuple α n) (t t' : Tuple α k) :
    compareEach cmp (s.append t) (s'.append t') =
      (compareEach cmp s s').then (compareEach cmp t t') := by
  rw [compareEach, ← replicate_append, comparator_append, compareEach, compareEach]

theorem compareEach_push (cmp : α → α → Ordering) (s s' : Tuple α n) (a b : α) :
    compareEach cmp (s.push a) (s'.push b) = (compareEach cmp s s').then (cmp a b) := by
  rw [compareEach, ← replicate_push, comparator_push, compareEach]

theorem partialCompare_append (cmp : α → α → Option Ordering) (s s' : Tuple α n)
    (t t' : Tuple α k) :
    partialCompare cmp (s.append t) (s'.append t') =
      if partialCompare cmp s s' = some .eq then partialCompare cmp t t'
      else partialCompare cmp s s' := by
  rw [← thenM_option]
  simp only [partialCompare_eq_comparatorM, ← replicate_append, comparatorM_append]

theorem partialCompare_push (cmp : α → α → Option Ordering) (s s' : Tuple α n) (a b : α) :
    partialCompare cmp (s.push a) (s'.push b) =
      if partialCompare cmp s s' = some .eq then cmp a b else partialCompare cmp s s' := by
  rw [← thenM_option]
  simp only [partialCompare_eq_comparatorM, ← replicate_push, comparatorM_push]

/-- Tuples that are joined from two parts compare as their first parts do, and as
    their second parts do where the first ones are equal. The comparisons of the
    second parts are not asked before that. So what is put behind two tuples that
    differ does not matter, and neither do equal values that are put in front. -/
theorem comparisons_go_by_parts :
    (∀ {α : Type u} {n k : Nat} (s s' : Tuple α n) (t t' : Tuple α k),
      (∀ (cmps : Tuple (α → α → Ordering) n) (ds : Tuple (α → α → Ordering) k),
        comparator (cmps.append ds) (s.append t) (s'.append t') =
          (comparator cmps s s').then (comparator ds t t') ∧
        ∀ {ε : Type} (event : Nat → α → α → Ordering → ε),
          let first := comparatorM (recordEach event 1 cmps) s s'
          let second := comparatorM (recordEach event (1 + n) ds) t t'
          comparatorM (recordEach event 1 (cmps.append ds)) (s.append t) (s'.append t') =
            if comparator cmps s s' = .eq then
              ⟨comparator ds t t', first.events ++ second.events⟩
            else first) ∧
      (∀ cmp : α → α → Ordering,
        compareEach cmp (s.append t) (s'.append t') =
          (compareEach cmp s s').then (compareEach cmp t t') ∧
        compare cmp (s.append t) (s'.append t') = (compare cmp s s').then (compare cmp t t')) ∧
      (∀ cmp : α → α → Option Ordering,
        partialCompare cmp (s.append t) (s'.append t') =
          if partialCompare cmp s s' = some .eq then partialCompare cmp t t'
          else partialCompare cmp s s') ∧
      ∀ eq : α → α → Bool,
        beq eq (s.append t) (s'.append t') = true ↔ beq eq s s' = true ∧ beq eq t t' = true) ∧
    ∀ {α : Type u} {n : Nat} (s s' : Tuple α n) (a b : α),
      (∀ (cmps : Tuple (α → α → Ordering) n) (cmp : α → α → Ordering),
        (comparator cmps s s' ≠ .eq →
          comparator (cmps.push cmp) (s.push a) (s'.push b) = comparator cmps s s') ∧
        (cmp a b = .eq →
          comparator (cons cmp cmps) (cons a s) (cons b s') = comparator cmps s s')) ∧
      (∀ cmp : α → α → Ordering,
        (compare cmp s s' ≠ .eq →
          compareEach cmp (s.push a) (s'.push b) = compareEach cmp s s' ∧
          compare cmp (s.push a) (s'.push b) = compare cmp s s') ∧
        (cmp a b = .eq →
          compareEach cmp (cons a s) (cons b s') = compareEach cmp s s' ∧
          compare cmp (cons a s) (cons b s') = compare cmp s s')) ∧
      ∀ cmp : α → α → Option Ordering,
        (partialCompare cmp s s' ≠ some .eq →
          partialCompare cmp (s.push a) (s'.push b) = partialCompare cmp s s') ∧
        (cmp a b = some .eq →
          partialCompare cmp (cons a s) (cons b s') = partialCompare cmp s s') := by
  refine ⟨?joined, ?grown⟩
  case joined =>
    intro α n k s s' t t'
    refine ⟨fun cmps ds => ⟨comparator_append cmps ds s s' t t', ?_⟩, ?_, ?_, ?_⟩
    · intro ε event first second
      rw [recordEach_append, comparatorM_append, thenM_traced, value_comparatorM_recordEach,
        value_comparatorM_recordEach]
    · intro cmp
      have hjoin := compareEach_append cmp s s' t t'
      exact ⟨hjoin, by simpa only [compareEach_eq_compare] using hjoin⟩
    · exact fun cmp => partialCompare_append cmp s s' t t'
    · intro eq
      rw [beq_append, Bool.and_eq_true]
  case grown =>
    intro α n s s' a b
    refine ⟨fun cmps cmp => ⟨?_, ?_⟩, fun cmp => ⟨?_, ?_⟩, fun cmp => ⟨?_, ?_⟩⟩
    · intro hdiffer
      rw [comparator_push, then_of_ne hdiffer]
    · intro hequal
      rw [comparator_cons, hequal, Ordering.eq_then]
    · intro hdiffer
      have hpush : compareEach cmp (s.push a) (s'.push b) = compareEach cmp s s' := by
        rw [compareEach_push, then_of_ne (compareEach_eq_compare cmp s s' ▸ hdiffer)]
      exact ⟨hpush, by simpa only [compareEach_eq_compare] using hpush⟩
    · intro hequal
      have hcons : compare cmp (cons a s) (cons b s') = compare cmp s s' := by
        rw [compare_cons, hequal, Ordering.eq_then]
      exact ⟨by simpa only [compareEach_eq_compare] using hcons, hcons⟩
    · intro hdiffer
      rw [partialCompare_push, if_neg hdiffer]
    · intro hequal
      exact partialCompare_cons_of_eq hequal s s'

/-- The first slots differ by kind, so the lengths of what is put behind them do
    not matter, and neither does a text of the same length in front. Equal numbers
    in front of two others leave these in order, and equal numbers behind do not make
    tuples comparable that are not. -/
theorem comparisons_go_by_parts_kind_length :
    let s : Tuple Value 1 := cons (.int 5) nil
    let s' : Tuple Value 1 := cons (.bool true) nil
    let kind := Value.Comparison.kind.ask
    let length := Value.Comparison.length.ask
    let undefined : Tuple Float 1 := cons (0 / 0) nil
    let one : Tuple Float 1 := cons 1 nil
    let two : Tuple Float 1 := cons 2 nil
    (comparator (cons kind nil) s s' ≠ .eq ∧
      comparator ((cons kind nil).push length) (s.push (.text "ab")) (s'.push (.text "a")) = .lt ∧
      length (.text "ab") (.text "cd") = .eq ∧
      comparator (cons length (cons kind nil)) (cons (.text "ab") s) (cons (.text "cd") s') = .lt) ∧
    (compare kind s s' ≠ .eq ∧
      compare kind (s.push (.bool true)) (s'.push (.text "a")) = .lt ∧
      kind (.text "ab") (.text "cd") = .eq ∧
      compare kind (cons (.text "ab") s) (cons (.text "cd") s') = .lt) ∧
    partialCompare floatCompare undefined one ≠ some .eq ∧
      partialCompare floatCompare (undefined.push 3) (one.push 3) = none ∧
      floatCompare 3 3 = some .eq ∧
      partialCompare floatCompare (cons 3 one) (cons 3 two) = some .lt := by
  intro s s' kind length undefined one two
  have hdiffer : comparator (cons kind nil) s s' = .lt := by decide
  have hdiffer' : compare kind s s' = .lt := by decide
  have hundefined : partialCompare floatCompare undefined one = none := by decide
  have hless : partialCompare floatCompare one two = some .lt := by decide
  refine ⟨⟨by decide, ?_, by decide, ?_⟩, ⟨by decide, ?_, by decide, ?_⟩, by decide, ?_,
    by decide, ?_⟩
  · have hgrown := (comparisons_go_by_parts.2 s s' (.text "ab") (.text "a")).1
    exact ((hgrown (cons kind nil) length).1 (by decide)).trans hdiffer
  · have hgrown := (comparisons_go_by_parts.2 s s' (.text "ab") (.text "cd")).1
    exact ((hgrown (cons kind nil) length).2 (by decide)).trans hdiffer
  · have hgrown := (comparisons_go_by_parts.2 s s' (.bool true) (.text "a")).2.1
    exact ((hgrown kind).1 (by decide)).2.trans hdiffer'
  · have hgrown := (comparisons_go_by_parts.2 s s' (.text "ab") (.text "cd")).2.1
    exact ((hgrown kind).2 (by decide)).2.trans hdiffer'
  · have hgrown := (comparisons_go_by_parts.2 undefined one 3 3).2.2
    exact ((hgrown floatCompare).1 (by decide)).trans hundefined
  · have hgrown := (comparisons_go_by_parts.2 one two 3 3).2.2
    exact ((hgrown floatCompare).2 (by decide)).trans hless

end Tuple

end Polyad
