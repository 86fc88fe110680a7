import Mathlib.Data.List.FinRange
import Polyad.Proofs.Order.Values
/-!
Comparators built from one comparison of each slot. A comparator goes by its
columns in turn, so it is as lawful as they are.
-/

namespace Polyad

universe u v

/-- Compare by the first of several comparisons, by the second where the first
    finds no difference, and so on. -/
def lexicographic {β : Type u} (cmps : List (β → β → Ordering)) : β → β → Ordering :=
  cmps.foldr compareLex fun _ _ => .eq

section

variable {β : Type u} {cmps : List (β → β → Ordering)}

theorem lexicographic_map {ι : Type v} (f : ι → β → β → Ordering) (keys : List ι) (a b : β) :
    lexicographic (keys.map f) a b = (keys.map fun key => f key a b).foldr Ordering.then .eq := by
  induction keys with
  | nil => rfl
  | cons key keys ih => exact congrArg (f key a b).then ih

theorem transCmp_lexicographic (hlawful : ∀ cmp ∈ cmps, Std.TransCmp cmp) :
    Std.TransCmp (lexicographic cmps) := by
  induction cmps with
  | nil => exact { eq_swap := rfl, isLE_trans := fun _ _ => rfl }
  | cons cmp cmps ih =>
    have hhead : Std.TransCmp cmp := hlawful cmp List.mem_cons_self
    have htail : Std.TransCmp (lexicographic cmps) :=
      ih fun other hother => hlawful other (List.mem_cons_of_mem cmp hother)
    exact inferInstanceAs (Std.TransCmp (compareLex cmp (lexicographic cmps)))

end

namespace Tuple

variable {α : Type u} {n : Nat}

/-- Compare tuples by one slot alone. -/
def column (cmps : Tuple (α → α → Ordering) n) (k : Fin n) (s t : Tuple α n) : Ordering :=
  cmps.get k (s.get k) (t.get k)

theorem transCmp_column {cmps : Tuple (α → α → Ordering) n} {k : Fin n}
    (hlawful : Std.TransCmp (cmps.get k)) : Std.TransCmp (column cmps k) :=
  transCmp_of_key (fun s => s.get k) fun _ _ => rfl

theorem comparator_eq_lexicographic (cmps : Tuple (α → α → Ordering) n) :
    comparator cmps = lexicographic ((List.finRange n).map (column cmps)) := by
  funext s t
  rw [lexicographic_map]
  induction cmps, s, t using induction₃ with
  | nil => rfl
  | cons n cmp a b cmps s t ih =>
    rw [comparator_cons, ih, List.finRange_succ, List.map_cons, List.map_map]
    rfl

theorem transCmp_comparator {cmps : Tuple (α → α → Ordering) n}
    (hlawful : ∀ k, Std.TransCmp (cmps.get k)) : Std.TransCmp (comparator cmps) := by
  rw [comparator_eq_lexicographic]
  apply transCmp_lexicographic
  intro cmp hcmp
  obtain ⟨k, -, rfl⟩ := List.mem_map.mp hcmp
  exact transCmp_column (hlawful k)

theorem comparator_eq_eq_iff (cmps : Tuple (α → α → Ordering) n) (s t : Tuple α n) :
    comparator cmps s t = .eq ↔ ∀ k, column cmps k s t = .eq := by
  induction cmps, s, t using induction₃ with
  | nil => simp
  | cons n cmp a b cmps s t ih =>
    rw [comparator_cons, Ordering.then_eq_eq, ih, Fin.forall_fin_succ]
    rfl

theorem comparator_map_flip (cmps : Tuple (α → α → Ordering) n) (s t : Tuple α n) :
    comparator (cmps.map flip) s t = comparator cmps t s := by
  induction cmps, s, t using induction₃ with
  | nil => rfl
  | cons n cmp a b cmps s t ih => rw [comparator_cons, ← ih, map, comparator_cons, flip]

/-- A comparator of lawful comparisons is lawful: it is oriented and transitive,
    and what it finds equal is interchangeable for it. Whatever the comparisons,
    it finds tuples equal exactly where each finds their slots equal, and it
    turns around when each of them does. -/
theorem comparator_lawful (cmps : Tuple (α → α → Ordering) n) :
    ((∀ k, Std.TransCmp (cmps.get k)) →
      Std.TransCmp (comparator cmps) ∧
      (Equivalence fun s t => comparator cmps s t = .eq) ∧
      ∀ s s' t t', comparator cmps s s' = .eq → comparator cmps t t' = .eq →
        comparator cmps s t = comparator cmps s' t') ∧
    (∀ s t, comparator cmps s t = .eq ↔ ∀ k, cmps.get k (s.get k) (t.get k) = .eq) ∧
    ∀ s t, comparator (cmps.map flip) s t = comparator cmps t s := by
  refine ⟨?_, comparator_eq_eq_iff cmps, comparator_map_flip cmps⟩
  intro hslots
  have hlawful : Std.TransCmp (comparator cmps) := transCmp_comparator hslots
  refine ⟨hlawful, ⟨fun s => Std.ReflCmp.compare_self, Std.OrientedCmp.eq_symm,
    Std.TransCmp.eq_trans⟩, ?_⟩
  intro s s' t t' hs ht
  rw [Std.TransCmp.congr_left hs, Std.TransCmp.congr_right ht]

/-- By the length of the first slot, and backwards by the second one. -/
theorem comparator_lawful_length_reverse :
    let cmps := cons Value.Comparison.length.ask (cons Value.Comparison.reverse.ask nil)
    (∀ k, Std.TransCmp (cmps.get k)) ∧ Std.TransCmp (comparator cmps) := by
  intro cmps
  have hlength : Std.TransCmp Value.Comparison.length.ask :=
    Value.Comparison.transCmp_ask (by intro answer heq; cases heq)
  have hreverse : Std.TransCmp Value.Comparison.reverse.ask :=
    Value.Comparison.transCmp_ask (by intro answer heq; cases heq)
  have hslots : ∀ k, Std.TransCmp (cmps.get k)
    | 0 => hlength
    | 1 => hreverse
  exact ⟨hslots, ((comparator_lawful cmps).1 hslots).1⟩

end Tuple

end Polyad
