import Mathlib.Data.List.FinRange
import Mathlib.Logic.Function.Iterate
import Polyad.Tuple.Sampling
import Polyad.Tuple.Slot
/-!
What is expected of nested pairs as test data, place by place: they are drawn from the
first place to the last, and they are made smaller in one place after the other. This
leaves no choice, and tuples that are drawn or made smaller by way of such pairs go by
their slots in the same way, as both conversions keep every slot in its place.
-/

namespace Polyad

universe u v

variable {α : Type u} {σ : Type v} {n : Nat}

/-- The source after some values have been taken from it. -/
def sourceAfter (next : σ → α × σ) (taken : Nat) (source : σ) : σ :=
  (fun source => (next source).2)^[taken] source

namespace Nested

/-- The value in a place. -/
def get : {n : Nat} → Nested α n → Fin n → α
  | _ + 1, (head, _), ⟨0, _⟩ => head
  | _ + 1, (_, tail), ⟨k + 1, hk⟩ => get tail ⟨k, Nat.lt_of_succ_lt_succ hk⟩

/-- Put a value into a place and keep every other value. -/
def set : {n : Nat} → Nested α n → Fin n → α → Nested α n
  | _ + 1, (_, tail), ⟨0, _⟩, value => (value, tail)
  | _ + 1, (head, tail), ⟨k + 1, hk⟩, value =>
    (head, set tail ⟨k, Nat.lt_of_succ_lt_succ hk⟩ value)

theorem ext_get {x y : Nested α n} (hplaces : ∀ k, x.get k = y.get k) : x = y := by
  induction n with
  | zero => rfl
  | succ n ih =>
    obtain ⟨head, tail⟩ := x
    obtain ⟨head', tail'⟩ := y
    have hhead : head = head' := hplaces 0
    have htail : tail = tail' := ih fun k => hplaces k.succ
    rw [hhead, htail]

/-- Each place in turn is made smaller, and what stands in all other places is kept. -/
def ShrinksInTurn (smaller : α → List α) (native : Nested α n → List (Nested α n)) : Prop :=
  ∀ x, native x =
    (List.finRange n).flatMap fun k => (smaller (x.get k)).map fun value => x.set k value

/-- Each place takes the next value of a source, in the order of the places. -/
structure DrawsInOrder (next : σ → α × σ) (native : σ → Nested α n × σ) : Prop where
  get_fst : ∀ source k, (native source).1.get k = (next (sourceAfter next k.val source)).1
  snd : ∀ source, (native source).2 = sourceAfter next n source

theorem shrinksInTurn_shrink (smaller : α → List α) (n : Nat) :
    ShrinksInTurn smaller (shrink smaller (n := n)) := by
  intro x
  induction n with
  | zero => rfl
  | succ n ih =>
    obtain ⟨head, tail⟩ := x
    rw [shrink, ih, List.finRange_succ, List.flatMap_cons, List.flatMap_map, List.map_flatMap]
    simp only [List.map_map]
    rfl

theorem drawsInOrder_draw (next : σ → α × σ) (n : Nat) : DrawsInOrder next (draw next n) where
  get_fst source k := by
    induction n generalizing source with
    | zero => exact k.elim0
    | succ n ih =>
      obtain ⟨k, hk⟩ := k
      cases k with
      | zero => rfl
      | succ k => exact ih (next source).2 ⟨k, Nat.lt_of_succ_lt_succ hk⟩
  snd source := by
    induction n generalizing source with
    | zero => rfl
    | succ n ih => exact ih (next source).2

/-- No other way of making nested pairs smaller goes place by place. -/
theorem ShrinksInTurn.eq_shrink {smaller : α → List α} {native : Nested α n → List (Nested α n)}
    (hnative : ShrinksInTurn smaller native) : native = shrink smaller := by
  funext x
  rw [hnative x, shrinksInTurn_shrink smaller n x]

theorem DrawsInOrder.eq_draw {next : σ → α × σ} {native : σ → Nested α n × σ}
    (hnative : DrawsInOrder next native) : native = draw next n := by
  have hdraw := drawsInOrder_draw next n
  funext source
  refine Prod.ext (ext_get fun k => ?_) ?_
  · rw [hnative.get_fst, hdraw.get_fst]
  · rw [hnative.snd, hdraw.snd]

end Nested

namespace Tuple

theorem get_toNested (t : Tuple α n) (k : Fin n) : t.toNested.get k = t.get k := by
  induction t with
  | nil => exact k.elim0
  | cons head tail ih =>
    obtain ⟨k, hk⟩ := k
    cases k with
    | zero => rfl
    | succ k => exact ih ⟨k, Nat.lt_of_succ_lt_succ hk⟩

theorem ofNested_set_toNested (t : Tuple α n) (k : Fin n) (value : α) :
    ofNested (t.toNested.set k value) = t.set k value := by
  induction t with
  | nil => exact k.elim0
  | cons head tail ih =>
    obtain ⟨k, hk⟩ := k
    cases k with
    | zero => exact congrArg (cons value) (ofNested_toNested tail)
    | succ k => exact congrArg (cons head) (ih ⟨k, Nat.lt_of_succ_lt_succ hk⟩)

/-- By way of nested pairs that are made smaller in one place after the other, every slot
    in turn is made smaller, and the others are kept. -/
theorem shrinkBy_eq_flatMap {smaller : α → List α} {native : Nested α n → List (Nested α n)}
    (hnative : Nested.ShrinksInTurn smaller native) (t : Tuple α n) :
    t.shrinkBy native =
      (List.finRange n).flatMap fun k => (smaller (t.get k)).map fun value => t.set k value := by
  rw [shrinkBy, hnative, List.map_flatMap]
  simp only [List.map_map, Function.comp_def, get_toNested, ofNested_set_toNested]

theorem shrinkBy_eq_shrink {smaller : α → List α} {native : Nested α n → List (Nested α n)}
    (hnative : Nested.ShrinksInTurn smaller native) (t : Tuple α n) :
    t.shrinkBy native = t.shrink smaller := by
  rw [shrink, hnative.eq_shrink]

theorem drawBy_eq_draw {next : σ → α × σ} {native : σ → Nested α n × σ}
    (hnative : Nested.DrawsInOrder next native) : drawBy native = draw next n := by
  rw [draw, hnative.eq_draw]

end Tuple

end Polyad
