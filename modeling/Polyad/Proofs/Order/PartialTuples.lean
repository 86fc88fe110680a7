import Mathlib.Data.List.Forall2
import Polyad.Packed
import Polyad.Proofs.Order.Floats
/-!
Tuples whose slots may be incomparable, even with themselves. The first slot
that does not find its two values equal decides, also when it leaves them
incomparable, and the laws of the slots carry over to tuples.
-/

namespace Polyad

universe u

namespace Tuple

variable {α : Type u} {eq : α → α → Bool} {cmp : α → α → Option Ordering} {n : Nat}

theorem partialCompare_cons_of_eq {a b : α} (hhead : cmp a b = some .eq) (s t : Tuple α n) :
    partialCompare cmp (cons a s) (cons b t) = partialCompare cmp s t := by
  simp [partialCompare, hhead]

theorem partialCompare_cons_of_ne {a b : α} (hhead : cmp a b ≠ some .eq) (s t : Tuple α n) :
    partialCompare cmp (cons a s) (cons b t) = cmp a b := by
  rw [partialCompare]
  split
  · exact absurd ‹_› hhead
  · rfl

theorem partialCompare_cons_eq_some_eq {a b : α} {s t : Tuple α n} :
    partialCompare cmp (cons a s) (cons b t) = some .eq ↔
      cmp a b = some .eq ∧ partialCompare cmp s t = some .eq := by
  by_cases hhead : cmp a b = some .eq
  · simp [partialCompare_cons_of_eq hhead, hhead]
  · simp [partialCompare_cons_of_ne hhead, hhead]

/-- Nothing after the first slot that does not find its values equal matters. -/
theorem partialCompare_of_first {s t : Tuple α n} {k : Fin n}
    (hbefore : ∀ i < k, cmp (s.get i) (t.get i) = some .eq)
    (hdecides : cmp (s.get k) (t.get k) ≠ some .eq) :
    partialCompare cmp s t = cmp (s.get k) (t.get k) := by
  induction s, t using induction₂ with
  | nil => exact k.elim0
  | cons n a b s t ih =>
    cases k using Fin.cases with
    | zero => exact partialCompare_cons_of_ne hdecides s t
    | succ k =>
      have hhead : cmp a b = some .eq := hbefore 0 (Fin.succ_pos k)
      rw [partialCompare_cons_of_eq hhead]
      exact ih (fun i hi => hbefore i.succ (Fin.succ_lt_succ_iff.mpr hi)) hdecides

theorem partialCompare_eq_some_eq_iff {s t : Tuple α n} :
    partialCompare cmp s t = some .eq ↔ ∀ k, cmp (s.get k) (t.get k) = some .eq := by
  induction s, t using induction₂ with
  | nil => simp [partialCompare]
  | cons n a b s t ih =>
    rw [partialCompare_cons_eq_some_eq, ih, Fin.forall_fin_succ]
    rfl

theorem beq_iff {s t : Tuple α n} : beq eq s t = true ↔ ∀ k, eq (s.get k) (t.get k) = true := by
  induction s, t using induction₂ with
  | nil => simp [beq]
  | cons n a b s t ih =>
    rw [beq, Bool.and_eq_true, ih, Fin.forall_fin_succ]
    rfl

theorem partialCompare_swap (hswap : ∀ a b, cmp b a = (cmp a b).map Ordering.swap)
    (s t : Tuple α n) : partialCompare cmp t s = (partialCompare cmp s t).map Ordering.swap := by
  induction s, t using induction₂ with
  | nil => rfl
  | cons n a b s t ih =>
    by_cases hhead : cmp a b = some .eq
    · have hback : cmp b a = some .eq := by rw [hswap, hhead]; rfl
      rw [partialCompare_cons_of_eq hhead, partialCompare_cons_of_eq hback, ih]
    · have hback : cmp b a ≠ some .eq := fun heq => hhead (by rw [hswap, heq]; rfl)
      rw [partialCompare_cons_of_ne hhead, partialCompare_cons_of_ne hback, hswap]

/-- What the operators answer when all of them go by one answer. Without one,
    things are different and nothing else. -/
def Verdict.ofAnswer (answer : Option Ordering) : Verdict where
  eq := answer == some .eq
  ne := answer != some .eq
  lt := answer.any Ordering.isLT
  le := answer.any Ordering.isLE
  gt := answer.any Ordering.isGT
  ge := answer.any Ordering.isGE
  answer

theorem verdict_eq_ofAnswer (heq : ∀ a b, eq a b = true ↔ cmp a b = some .eq) (s t : Tuple α n) :
    verdict eq cmp s t = .ofAnswer (partialCompare cmp s t) := by
  have hequal : beq eq s t = (partialCompare cmp s t == some .eq) := by
    rw [Bool.eq_iff_iff, beq_iff, beq_iff_eq, partialCompare_eq_some_eq_iff]
    simp only [heq]
  simp only [verdict, Verdict.ofAnswer, hequal]
  cases partialCompare cmp s t with
  | none => rfl
  | some answer => cases answer <;> rfl

theorem beq_iff_forall₂ {s t : Tuple α n} :
    beq eq s t = true ↔ List.Forall₂ (fun a b => eq a b = true) s.toList t.toList := by
  induction s, t using induction₂ with
  | nil => simp [beq]
  | cons n a b s t ih => simp [beq, ih]

end Tuple

theorem Packed.beq_iff {α : Type u} {eq : α → α → Bool} {a b : Packed α} :
    a.beq eq b = true ↔
      a.arity = b.arity ∧ List.Forall₂ (fun x y => eq x y = true) a.toList b.toList := by
  obtain ⟨n, s, hn⟩ := a
  obtain ⟨m, t, hm⟩ := b
  by_cases harity : n = m
  · subst harity
    simp only [Packed.beq, Packed.toTuple?, Packed.toList, dif_pos, true_and]
    exact Tuple.beq_iff_forall₂
  · simp [Packed.beq, Packed.toTuple?, harity, Ne.symm harity]

theorem Packed.beq_symm {α : Type u} {eq : α → α → Bool} (hsymm : ∀ x y, eq x y = eq y x)
    (a b : Packed α) : a.beq eq b = b.beq eq a := by
  have hback {a b : Packed α} (hequal : a.beq eq b = true) : b.beq eq a = true := by
    rw [beq_iff] at hequal ⊢
    obtain ⟨harity, hslots⟩ := hequal
    exact ⟨harity.symm, (hslots.imp fun x y hxy => (hsymm y x).trans hxy).flip⟩
  exact Bool.eq_iff_iff.mpr ⟨hback, hback⟩

namespace Tuple

variable {α : Type u} {eq : α → α → Bool} {cmp : α → α → Option Ordering} {n : Nat}

theorem partialCompare_chain (hlaws : PartialLaws eq cmp) {s t u : Tuple α n} {st tu : Ordering}
    (hst : st ≠ .gt) (htu : tu ≠ .gt) (hcmp : partialCompare cmp s t = some st)
    (hcmp' : partialCompare cmp t u = some tu) :
    partialCompare cmp s u = some (st.then tu) := by
  induction s, t, u using induction₃ with
  | nil =>
    obtain rfl : .eq = st := Option.some.inj hcmp
    exact hcmp'
  | cons n a b c s t u ih =>
    -- The first of the two deciding slots decides; the answer at the other is lost.
    by_cases hab : cmp a b = some .eq
    · rw [partialCompare_cons_of_eq hab] at hcmp
      by_cases hbc : cmp b c = some .eq
      · have hac : cmp a c = some .eq := hlaws.eq_trans a b c hab hbc
        rw [partialCompare_cons_of_eq hbc] at hcmp'
        rw [partialCompare_cons_of_eq hac]
        exact ih hcmp hcmp'
      · rw [partialCompare_cons_of_ne hbc] at hcmp'
        have hac : cmp a c = some tu := hlaws.chain (by decide) htu hab hcmp'
        have hne : cmp a c ≠ some .eq := by rwa [hac, ← hcmp']
        have hlost : st.then tu = tu := by cases st <;> cases tu <;> simp_all
        rw [partialCompare_cons_of_ne hne, hac, hlost]
    · rw [partialCompare_cons_of_ne hab] at hcmp
      obtain rfl : st = .lt := by cases st <;> simp_all
      obtain ⟨bc, hbc, hnotgt⟩ : ∃ bc, cmp b c = some bc ∧ bc ≠ .gt := by
        by_cases hbc : cmp b c = some .eq
        · exact ⟨.eq, hbc, by decide⟩
        · exact ⟨tu, partialCompare_cons_of_ne hbc t u ▸ hcmp', htu⟩
      have hac : cmp a c = some .lt := hlaws.chain (by decide) hnotgt hcmp hbc
      have hne : cmp a c ≠ some .eq := by simp [hac]
      rw [partialCompare_cons_of_ne hne, hac, Ordering.lt_then]

/-- What holds of the slots holds of the tuples. -/
theorem partialLaws (hlaws : PartialLaws eq cmp) (n : Nat) :
    PartialLaws (beq eq : Tuple α n → Tuple α n → Bool) (partialCompare cmp) where
  eq_iff s t := by simp only [beq_iff, partialCompare_eq_some_eq_iff, hlaws.eq_iff]
  swap := partialCompare_swap hlaws.swap
  eq_trans _ _ _ := partialCompare_chain hlaws (by decide) (by decide)
  lt_trans _ _ _ := partialCompare_chain hlaws (by decide) (by decide)
  lt_of_lt_of_eq _ _ _ := partialCompare_chain hlaws (by decide) (by decide)
  lt_of_eq_of_lt _ _ _ := partialCompare_chain hlaws (by decide) (by decide)

/-- Slots that keep the laws of things that may be incomparable make tuples that
    do. The first slot that does not find its values equal decides; all operators
    follow that answer; a tuple with a slot that differs from itself is not
    comparable with itself; and packed tuples are equal when their slots are,
    either way around. Floating-point numbers are such slots. -/
theorem incomparable_slots :
    PartialLaws floatEqual floatCompare ∧
    ∀ {α : Type u} {eq : α → α → Bool} {cmp : α → α → Option Ordering}, PartialLaws eq cmp →
      (∀ n, PartialLaws (beq eq : Tuple α n → Tuple α n → Bool) (partialCompare cmp)) ∧
      (∀ n (s t : Tuple α n),
        ((∀ k, cmp (s.get k) (t.get k) = some .eq) → partialCompare cmp s t = some .eq) ∧
        (∀ k, (∀ i < k, cmp (s.get i) (t.get i) = some .eq) →
          cmp (s.get k) (t.get k) ≠ some .eq →
            partialCompare cmp s t = cmp (s.get k) (t.get k)) ∧
        verdict eq cmp s t = .ofAnswer (partialCompare cmp s t)) ∧
      (∀ n (s : Tuple α n),
        (beq eq s s = true ↔ ∀ k, eq (s.get k) (s.get k) = true) ∧
        (beq eq s s = false → partialCompare cmp s s = none)) ∧
      ∀ a b : Packed α,
        (a.beq eq b = true ↔
          a.arity = b.arity ∧ List.Forall₂ (fun x y => eq x y = true) a.toList b.toList) ∧
        a.beq eq b = b.beq eq a := by
  refine ⟨float_partialLaws, ?_⟩
  intro α eq cmp hlaws
  refine ⟨partialLaws hlaws, ?_, ?_, ?_⟩
  · intro n s t
    exact ⟨partialCompare_eq_some_eq_iff.mpr, fun k => partialCompare_of_first,
      verdict_eq_ofAnswer hlaws.eq_iff s t⟩
  · intro n s
    exact ⟨beq_iff, (partialLaws hlaws n).cmp_self s⟩
  · intro a b
    refine ⟨Packed.beq_iff, ?_⟩
    exact a.beq_symm hlaws.eq_symm b

/-- Not being a number in the second slot keeps no pair from coming before
    another by its first slot, but it keeps a pair from being equal to itself. -/
theorem incomparable_slots_floats :
    let s : Tuple Float 2 := cons 1 (cons (0 / 0) nil)
    let t : Tuple Float 2 := cons 2 (cons (0 / 0) nil)
    PartialLaws floatEqual floatCompare ∧ partialCompare floatCompare s t = some .lt ∧
      beq floatEqual s s = false ∧ partialCompare floatCompare s s = none := by
  intro s t
  obtain ⟨-, hcompare, hself, -⟩ := incomparable_slots.2 float_partialLaws
  have hlt : partialCompare floatCompare s t = floatCompare 1 2 :=
    (hcompare 2 s t).2.1 0 (fun i hi => absurd hi (Fin.not_lt_zero i)) (by decide)
  have hne : beq floatEqual s s = false := by decide
  exact ⟨float_partialLaws, hlt.trans (by decide), hne, (hself 2 s).2 hne⟩

end Tuple

end Polyad
