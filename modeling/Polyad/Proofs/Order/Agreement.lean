import Polyad.Tuple.Native
import Polyad.Proofs.Order.Values
import Polyad.Proofs.Order.PartialTuples
/-!
All ways of comparing two tuples agree, if those of comparing two slots do. The
order is that of the lists of slots, and of the slots in nested pairs.
-/

namespace Polyad

universe u

/-- An equality, an order and a total order that say the same. -/
structure Consistent {α : Type u} (eq : α → α → Bool) (partialCmp : α → α → Option Ordering)
    (cmp : α → α → Ordering) : Prop where
  total : Std.TransCmp cmp
  eq_iff : ∀ a b, eq a b = true ↔ cmp a b = .eq
  partialCmp_eq : ∀ a b, partialCmp a b = some (cmp a b)

theorem Consistent.eq_iff_partialCmp {α : Type u} {eq : α → α → Bool}
    {partialCmp : α → α → Option Ordering} {cmp : α → α → Ordering}
    (hslots : Consistent eq partialCmp cmp) (a b : α) :
    eq a b = true ↔ partialCmp a b = some .eq := by
  rw [hslots.eq_iff, hslots.partialCmp_eq, Option.some_inj]

/-- The order of nested pairs: by what comes first in them, then by the rest. -/
def Nested.compare {α : Type u} (cmp : α → α → Ordering) :
    {n : Nat} → Nested α n → Nested α n → Ordering
  | 0, _, _ => .eq
  | _ + 1, (a, x), (b, y) => (cmp a b).then (compare cmp x y)

namespace Tuple

variable {α : Type u} {eq : α → α → Bool} {partialCmp : α → α → Option Ordering}
  {cmp : α → α → Ordering} {n : Nat}

theorem compare_eq_compareLex (cmp : α → α → Ordering) (s t : Tuple α n) :
    compare cmp s t = List.compareLex cmp s.toList t.toList := by
  induction s, t using induction₂ with
  | nil => simp [compare, List.compareLex_nil_nil]
  | cons n a b s t ih => simp only [compare_cons, toList_cons, List.compareLex_cons_cons, ih]

theorem compare_eq_compare_toNested (cmp : α → α → Ordering) (s t : Tuple α n) :
    compare cmp s t = s.toNested.compare cmp t.toNested := by
  induction s, t using induction₂ with
  | nil => simp [compare, Nested.compare]
  | cons n a b s t ih => rw [compare_cons, ih, toNested, toNested, Nested.compare]

instance [Std.TransCmp cmp] : Std.TransCmp (compare cmp : Tuple α n → Tuple α n → Ordering) :=
  transCmp_of_key toList (compare_eq_compareLex cmp)

theorem partialCompare_eq_some_compare (hcmp : ∀ a b, partialCmp a b = some (cmp a b))
    (s t : Tuple α n) : partialCompare partialCmp s t = some (compare cmp s t) := by
  induction s, t using induction₂ with
  | nil => simp [partialCompare, compare]
  | cons n a b s t ih =>
    rw [partialCompare, compare, hcmp, ih]
    cases cmp a b <;> rfl

theorem perm_min_max (cmp : α → α → Ordering) (s t : Tuple α n) :
    [min cmp s t, max cmp s t].Perm [s, t] := by
  unfold min max
  split
  · exact .swap s t []
  · exact .refl [s, t]

theorem isLE_compare_min_max [Std.TransCmp cmp] (s t : Tuple α n) :
    (compare cmp (min cmp s t) (max cmp s t)).isLE = true := by
  unfold min max
  split
  · next hgt => exact Ordering.isLE_of_eq_lt (Std.OrientedCmp.lt_of_gt hgt)
  · next hle => exact Ordering.isLE_iff_ne_gt.mpr hle

/-- Slots that are compared consistently make tuples that are, and these can be
    slots again. -/
theorem consistent (hslots : Consistent eq partialCmp cmp) (n : Nat) :
    Consistent (beq eq : Tuple α n → Tuple α n → Bool) (partialCompare partialCmp)
      (compare cmp) where
  total := have := hslots.total; inferInstance
  eq_iff s t := by
    rw [beq_iff, ← Option.some_inj, ← partialCompare_eq_some_compare hslots.partialCmp_eq,
      partialCompare_eq_some_eq_iff]
    simp only [hslots.eq_iff_partialCmp]
  partialCmp_eq := partialCompare_eq_some_compare hslots.partialCmp_eq

end Tuple

theorem Value.consistent : Consistent beq partialCompare compare where
  total := inferInstance
  eq_iff := beq_iff_compare_eq
  partialCmp_eq _ _ := rfl

namespace Tuple

/-- Where equality and the orders of the slots agree, so do all comparisons of
    tuples: the chain of slot comparisons, the comparator of one comparison for
    every slot, the operators, the smaller and the larger tuple, the order of
    nested pairs and that of lists. Values are such slots, and a value made of a
    tuple compares as that tuple does. -/
theorem comparisons_agree :
    (∀ {α : Type u} {eq : α → α → Bool} {partialCmp : α → α → Option Ordering}
        {cmp : α → α → Ordering}, Consistent eq partialCmp cmp → ∀ n,
      Consistent (beq eq : Tuple α n → Tuple α n → Bool) (partialCompare partialCmp)
        (compare cmp) ∧
      ∀ s t : Tuple α n,
        compareEach cmp s t = compare cmp s t ∧
        comparator (replicate n cmp) s t = compare cmp s t ∧
        partialCompare partialCmp s t = some (compare cmp s t) ∧
        verdict eq partialCmp s t = .ofAnswer (some (compare cmp s t)) ∧
        [min cmp s t, max cmp s t].Perm [s, t] ∧
        (compare cmp (min cmp s t) (max cmp s t)).isLE = true ∧
        compare cmp s t = s.toNested.compare cmp t.toNested ∧
        compare cmp s t = List.compareLex cmp s.toList t.toList) ∧
    Consistent Value.beq Value.partialCompare Value.compare ∧
    ∀ n (s t : Tuple Value n),
      (Value.tuple s).beq (.tuple t) = beq Value.beq s t ∧
      (Value.tuple s).partialCompare (.tuple t) = partialCompare Value.partialCompare s t ∧
      (Value.tuple s).compare (.tuple t) = compare Value.compare s t := by
  refine ⟨?slots, Value.consistent, ?values⟩
  case slots =>
    intro α eq partialCmp cmp hslots n
    have hlawful : Std.TransCmp cmp := hslots.total
    have hpartial (s t : Tuple α n) : partialCompare partialCmp s t = some (compare cmp s t) :=
      partialCompare_eq_some_compare hslots.partialCmp_eq s t
    refine ⟨consistent hslots n, fun s t => ?_⟩
    have hverdict : verdict eq partialCmp s t = .ofAnswer (some (compare cmp s t)) := by
      rw [verdict_eq_ofAnswer hslots.eq_iff_partialCmp, hpartial]
    exact ⟨compareEach_eq_compare cmp s t, compareEach_eq_compare cmp s t, hpartial s t, hverdict,
      perm_min_max cmp s t, isLE_compare_min_max s t, compare_eq_compare_toNested cmp s t,
      compare_eq_compareLex cmp s t⟩
  case values =>
    intro n s t
    have hcompare : (Value.tuple s).compare (.tuple t) = compare Value.compare s t := by
      rw [Value.compare_tuple, Value.compareSlots_eq_compare, Nat.compare_eq_eq.mpr rfl]
      rfl
    have hequal : (Value.tuple s).beq (.tuple t) = beq Value.beq s t := by
      rw [Bool.eq_iff_iff, Value.consistent.eq_iff, (consistent Value.consistent n).eq_iff, hcompare]
    refine ⟨hequal, ?_, hcompare⟩
    rw [partialCompare_eq_some_compare Value.consistent.partialCmp_eq, ← hcompare]
    rfl

/-- A pair of a pair and a text: the second slot of the inner pair decides. -/
theorem comparisons_agree_nested_values :
    let s : Tuple Value 2 :=
      cons (.tuple (cons (.int 1) (cons .absent nil))) (cons (.text "b") nil)
    let t : Tuple Value 2 :=
      cons (.tuple (cons (.int 1) (cons (.present (.bool false)) nil))) (cons (.text "a") nil)
    Consistent Value.beq Value.partialCompare Value.compare ∧
      compareEach Value.compare s t = .lt ∧
      verdict Value.beq Value.partialCompare s t = .ofAnswer (some .lt) := by
  intro s t
  have hlt : compare Value.compare s t = .lt := by decide
  obtain ⟨hchain, -, -, hverdict, -⟩ := (comparisons_agree.1 Value.consistent 2).2 s t
  rw [hlt] at hchain hverdict
  exact ⟨Value.consistent, hchain, hverdict⟩

end Tuple

end Polyad
