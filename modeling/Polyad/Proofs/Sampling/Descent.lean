import Mathlib.Order.WellFounded
import Polyad.Proofs.Sampling.Native
import Polyad.Value.Sampling
/-!
Making tuples smaller comes to an end, whatever makes nested pairs smaller in one place
after the other. Each time one slot is made smaller and every other slot is kept, so it
is enough that no slot can be made smaller for ever. Integers may lose their sign and
keep their magnitude, so what goes down with them is the magnitude first and then the
sign.
-/

namespace Polyad

universe u

namespace Value

/-- Whether a step leads from zero towards a number and not beyond it. -/
def Within (step number : Int) : Prop :=
  0 ≤ step ∧ step ≤ number ∨ number ≤ step ∧ step ≤ 0

theorem within_half (number : Int) : Within (number.tdiv 2) number := by
  rw [Within]
  obtain hpositive | hnegative := Int.le_total 0 number
  · rw [Int.tdiv_eq_ediv_of_nonneg hpositive]
    omega
  · have hopposite : number.tdiv 2 = -((-number) / 2) := by
      rw [← Int.tdiv_eq_ediv_of_nonneg (by omega), Int.neg_tdiv, Int.neg_neg]
    omega

theorem Within.trans {half step number : Int} (hhalf : Within half step)
    (hstep : Within step number) : Within half number := by
  unfold Within at *
  omega

/-- What lies a step before a number is smaller, unless the step is zero. -/
theorem natAbs_lt_of_mem_approach {number step candidate : Int} (hstep : Within step number)
    (hcandidate : candidate ∈ approach number step) : candidate.natAbs < number.natAbs := by
  rw [approach] at hcandidate
  split at hcandidate
  case isTrue => cases hcandidate
  case isFalse hmoves =>
    obtain rfl | hlater := List.mem_cons.mp hcandidate
    · unfold Within at hstep
      omega
    · exact natAbs_lt_of_mem_approach ((within_half step).trans hstep) hlater
termination_by step.natAbs
decreasing_by
  rw [Int.natAbs_tdiv]
  exact Nat.div_lt_self (by omega) (by decide)

theorem mem_smallerNumbers {number candidate : Int64} :
    candidate ∈ smallerNumbers number ↔ number ≠ 0 ∧ ∃ exact : Int,
      (exact = 0 ∨
        (number.toInt.tdiv 2 < 0 ∧ number ≠ Int64.minValue) ∧ exact = number.toInt.natAbs ∨
        exact ∈ approach number.toInt (number.toInt.tdiv 2)) ∧ Int64.ofInt exact = candidate := by
  by_cases hzero : number = 0
  · simp [smallerNumbers, hzero]
  · rw [smallerNumbers, if_neg hzero, List.mem_map, and_iff_right hzero]
    refine exists_congr fun exact => and_congr_left fun _ => ?_
    by_cases hsign : number.toInt.tdiv 2 < 0 ∧ number ≠ Int64.minValue <;> simp [hsign]

/-- An integer is made smaller by a smaller magnitude, or by the loss of its sign. -/
theorem of_mem_smallerNumbers {number candidate : Int64}
    (hcandidate : candidate ∈ smallerNumbers number) :
    candidate.toInt.natAbs < number.toInt.natAbs ∨
      number.toInt < 0 ∧ candidate.toInt = -number.toInt := by
  obtain ⟨hnumber, exact, hexact, rfl⟩ := mem_smallerNumbers.mp hcandidate
  have hnonzero : number.toInt ≠ 0 := fun hzero => hnumber (Int64.toInt_inj.mp hzero)
  have hlow := number.le_toInt
  have hhigh := number.toInt_lt
  have hfits (hle : exact.natAbs ≤ number.toInt.natAbs) (hminimum : exact ≠ 2 ^ 63) :
      (Int64.ofInt exact).toInt = exact :=
    Int64.toInt_ofInt_of_le (by omega) (by omega)
  obtain rfl | ⟨⟨hhalf, hminimum⟩, rfl⟩ | happroach := hexact
  · rw [hfits (by omega) (by decide)]
    omega
  · have hnegative : number.toInt < 0 := by
      by_contra hpositive
      rw [Int.tdiv_eq_ediv_of_nonneg (by omega)] at hhalf
      omega
    have hsmallest : number.toInt ≠ -2 ^ 63 := fun hequal =>
      hminimum (Int64.toInt_inj.mp (hequal.trans Int64.toInt_minValue.symm))
    rw [hfits (by omega) (by omega)]
    omega
  · have hcloser := natAbs_lt_of_mem_approach (within_half number.toInt) happroach
    rw [hfits (by omega) (by omega)]
    exact .inl hcloser

/-- How far a value is from one that cannot be made smaller. A negative integer
    is farther from it than its magnitude is. -/
def distance : Value → Nat
  | int number => 2 * number.toInt.natAbs + if number.toInt < 0 then 1 else 0
  | bool answer => answer.toNat
  | _ => 0

theorem distance_lt_of_mem_smaller {a b : Value} (hsmaller : b ∈ a.smaller) :
    b.distance < a.distance := by
  cases a with
  | int number =>
    obtain ⟨candidate, hcandidate, rfl⟩ := List.mem_map.mp hsmaller
    simp only [distance]
    obtain hcloser | ⟨hnegative, hopposite⟩ := of_mem_smallerNumbers hcandidate
    · split <;> split <;> omega
    · rw [if_neg (by omega), if_pos hnegative]
      omega
  | bool answer =>
    cases answer with
    | true =>
      obtain rfl := List.mem_singleton.mp hsmaller
      decide
    | false => cases hsmaller
  | _ => cases hsmaller

theorem wellFounded_smaller : WellFounded fun b a : Value => b ∈ a.smaller :=
  Subrelation.wf distance_lt_of_mem_smaller (measure distance).wf

theorem smaller_int (number : Int64) : (int number).smaller = (smallerNumbers number).map int :=
  rfl

theorem smaller_eq_nil_iff (a : Value) :
    a.smaller = [] ↔ a = int 0 ∨ a = bool false ∨ a.kind ≠ .int ∧ a.kind ≠ .bool := by
  cases a with
  | int number => by_cases hzero : number = 0 <;> simp [smaller_int, smallerNumbers, kind, hzero]
  | bool answer =>
    cases answer with
    | true => exact iff_of_false (List.cons_ne_nil _ _) (by simp [kind])
    | false => exact iff_of_true rfl (.inr (.inl rfl))
  | _ => exact iff_of_true rfl (by simp [kind])

end Value

namespace Tuple

variable {α : Type u} {smaller : α → List α} {n : Nat}

theorem mem_shrink_cons {head : α} {tail : Tuple α n} {t : Tuple α (n + 1)} :
    t ∈ (cons head tail).shrink smaller ↔
      (∃ value ∈ smaller head, cons value tail = t) ∨
        ∃ rest ∈ tail.shrink smaller, cons head rest = t := by
  rw [shrink_cons, List.mem_append, List.mem_map, List.mem_map]

/-- Either the first slot is made smaller or the rest is, and neither goes on for
    ever. -/
theorem acc_shrink_cons {head : α} {tail : Tuple α n}
    (hhead : Acc (fun b a => b ∈ smaller a) head)
    (htail : Acc (fun u t : Tuple α n => u ∈ t.shrink smaller) tail) :
    Acc (fun u t : Tuple α (n + 1) => u ∈ t.shrink smaller) (cons head tail) := by
  induction hhead generalizing tail with
  | intro head _ ihhead =>
    induction htail with
    | intro tail hrest ihtail =>
      refine ⟨_, fun t ht => ?_⟩
      obtain ⟨value, hvalue, rfl⟩ | ⟨rest, hmem, rfl⟩ := mem_shrink_cons.mp ht
      · exact ihhead value hvalue ⟨tail, hrest⟩
      · exact ihtail rest hmem

theorem acc_shrink {t : Tuple α n} (hslots : ∀ a ∈ t.toList, Acc (fun b a => b ∈ smaller a) a) :
    Acc (fun u t : Tuple α n => u ∈ t.shrink smaller) t := by
  induction t with
  | nil => exact ⟨_, nofun⟩
  | cons head tail ih =>
    rw [toList_cons, List.forall_mem_cons] at hslots
    exact acc_shrink_cons hslots.1 (ih hslots.2)

theorem wellFounded_shrink (hsmaller : WellFounded fun b a => b ∈ smaller a) (n : Nat) :
    WellFounded fun u t : Tuple α n => u ∈ t.shrink smaller :=
  ⟨fun _ => acc_shrink fun a _ => hsmaller.apply a⟩

theorem shrink_eq_nil_iff {t : Tuple α n} :
    t.shrink smaller = [] ↔ ∀ a ∈ t.toList, smaller a = [] := by
  induction t with
  | nil => simp
  | cons head tail ih => simp [ih]

section Search

variable (native : Nested α n → List (Nested α n)) (fails : Tuple α n → Bool)

/-- The first smaller tuple that still fails a test. -/
def nextFailing (t : Tuple α n) : Option (Tuple α n) :=
  (t.shrinkBy native).find? fails

/-- The search for a smallest failing tuple: as long as there is a next one, it
    takes the place of the one before. -/
def search (rounds : Nat) (t : Tuple α n) : Option (Tuple α n) :=
  (fun found => found.bind (nextFailing native fails))^[rounds] (some t)

end Search

/-- There is no way to go on for ever with tuples of which each is one of those that
    the last one is made smaller to. -/
structure ShrinkEnds (native : Nested α n → List (Nested α n)) : Prop where
  wellFounded : WellFounded fun u t : Tuple α n => u ∈ t.shrinkBy native
  chain_breaks : ∀ chain : Nat → Tuple α n, ∃ i, chain (i + 1) ∉ (chain i).shrinkBy native
  not_mem : ∀ t : Tuple α n, t ∉ t.shrinkBy native
  search_ends : ∀ (fails : Tuple α n → Bool) (t : Tuple α n),
    ∃ rounds last, search native fails rounds t = some last ∧
      (fails t = true → fails last = true) ∧ ∀ u ∈ last.shrinkBy native, fails u = false

section Ending

variable {native : Nested α n → List (Nested α n)}

theorem wellFounded_shrinkBy (hsmaller : WellFounded fun b a => b ∈ smaller a)
    (hnative : Nested.ShrinksInTurn smaller native) :
    WellFounded fun u t : Tuple α n => u ∈ t.shrinkBy native := by
  simpa only [shrinkBy_eq_shrink hnative] using wellFounded_shrink hsmaller n

theorem exists_search_ends (hends : WellFounded fun u t : Tuple α n => u ∈ t.shrinkBy native)
    (fails : Tuple α n → Bool) (t : Tuple α n) :
    ∃ rounds last, search native fails rounds t = some last ∧
      (fails t = true → fails last = true) ∧ ∀ u ∈ last.shrinkBy native, fails u = false := by
  induction t using hends.induction with
  | _ t ih =>
    cases hnext : nextFailing native fails t with
    | none =>
      refine ⟨0, t, rfl, id, fun u hu => ?_⟩
      exact Bool.eq_false_iff.mpr (List.find?_eq_none.mp hnext u hu)
    | some u =>
      obtain ⟨rounds, last, hsearch, hfails, hlast⟩ := ih u (List.mem_of_find?_eq_some hnext)
      refine ⟨rounds + 1, last, ?_, fun _ => hfails (List.find?_some hnext), hlast⟩
      rw [search, Function.iterate_succ_apply, Option.bind_some, hnext]
      exact hsearch

theorem shrinkEnds (hsmaller : WellFounded fun b a => b ∈ smaller a)
    (hnative : Nested.ShrinksInTurn smaller native) : ShrinkEnds native where
  wellFounded := wellFounded_shrinkBy hsmaller hnative
  chain_breaks chain := by
    have hnone := wellFounded_iff_isEmpty_descending_chain.mp
      (wellFounded_shrinkBy hsmaller hnative)
    by_contra hall
    exact hnone.false ⟨chain, not_exists_not.mp hall⟩
  not_mem t := (wellFounded_shrinkBy hsmaller hnative).irrefl.irrefl t
  search_ends := exists_search_ends (wellFounded_shrinkBy hsmaller hnative)

theorem shrinkBy_eq_nil_iff (hnative : Nested.ShrinksInTurn smaller native) (t : Tuple α n) :
    t.shrinkBy native = [] ↔ ∀ a ∈ t.toList, smaller a = [] := by
  rw [shrinkBy_eq_shrink hnative, shrink_eq_nil_iff]

end Ending

/-- Tuples are made smaller by way of nested pairs, which are made smaller in one place
    after the other. Where no slot can be made smaller for ever, no tuple can, so none is
    among its own candidates and the search for a smallest failing tuple ends, whatever
    the test. The values that slots hold are of that kind. A tuple has no candidate at all
    exactly if none of its slots can be made smaller, and among values these are zero,
    `false` and all that are no integers or booleans. The nested pairs of a session are
    made smaller in this way. -/
theorem shrinking_ends :
    (∀ {α : Type u} {smaller : α → List α} {n : Nat} {native : Nested α n → List (Nested α n)},
      (WellFounded fun b a => b ∈ smaller a) → Nested.ShrinksInTurn smaller native →
        ShrinkEnds native) ∧
    (∀ {n : Nat} {native : Nested Value n → List (Nested Value n)},
      Nested.ShrinksInTurn Value.smaller native → ShrinkEnds native) ∧
    (∀ {α : Type u} {smaller : α → List α} {n : Nat} {native : Nested α n → List (Nested α n)},
      Nested.ShrinksInTurn smaller native → ∀ t : Tuple α n,
        t.shrinkBy native = [] ↔ ∀ a ∈ t.toList, smaller a = []) ∧
    (∀ {n : Nat} {native : Nested Value n → List (Nested Value n)},
      Nested.ShrinksInTurn Value.smaller native → ∀ t : Tuple Value n,
        t.shrinkBy native = [] ↔
          ∀ a ∈ t.toList, a = .int 0 ∨ a = .bool false ∨ a.kind ≠ .int ∧ a.kind ≠ .bool) ∧
    ∀ n, Nested.ShrinksInTurn Value.smaller (Nested.shrink Value.smaller (n := n)) := by
  refine ⟨shrinkEnds, shrinkEnds Value.wellFounded_smaller, shrinkBy_eq_nil_iff, ?_,
    Nested.shrinksInTurn_shrink Value.smaller⟩
  intro n native hnative t
  simp only [shrinkBy_eq_nil_iff hnative, Value.smaller_eq_nil_iff]

/-- Numbers whose place any smaller number can take. The search for a smallest pair of
    them with a sum above three ends with one that has such a sum. -/
theorem shrinking_ends_sum_above_three :
    let native : Nested Nat 2 → List (Nested Nat 2) := Nested.shrink List.range
    let fails (t : Tuple Nat 2) : Bool := 3 < t.toList.foldr (· + ·) 0
    let t : Tuple Nat 2 := cons 5 (cons 4 nil)
    (WellFounded fun b a : Nat => b ∈ List.range a) ∧
      Nested.ShrinksInTurn List.range native ∧ fails t = true ∧
      ∃ rounds last, search native fails rounds t = some last ∧ fails last = true ∧
        ∀ u ∈ last.shrinkBy native, fails u = false := by
  intro native fails t
  have hsmaller : WellFounded fun b a : Nat => b ∈ List.range a :=
    Subrelation.wf List.mem_range.mp Nat.lt_wfRel.wf
  have hnative : Nested.ShrinksInTurn List.range native :=
    Nested.shrinksInTurn_shrink List.range 2
  have hfails : fails t = true := by decide
  obtain ⟨rounds, last, hsearch, hlast, hcandidates⟩ :=
    (shrinking_ends.1 hsmaller hnative).search_ends fails t
  exact ⟨hsmaller, hnative, hfails, rounds, last, hsearch, hlast hfails, hcandidates⟩

end Tuple

end Polyad
