import Mathlib.Order.Compare
import Polyad.Value.Order
/-!
The order of values is a total order. A value is laid out as the list of the
values in it, each one before its parts, and two values compare as their lists
do, one position after another.
-/

namespace Polyad

universe u v

/-- What compares as its key does is ordered as well as the keys are. -/
theorem transCmp_of_key {α : Type u} {κ : Type v} {order : κ → κ → Ordering} [Std.TransCmp order]
    {cmp : α → α → Ordering} (key : α → κ) (hkey : ∀ a b, cmp a b = order (key a) (key b)) :
    Std.TransCmp cmp where
  eq_swap {a b} := by
    rw [hkey, hkey]
    exact Std.OrientedCmp.eq_swap
  isLE_trans {a b c} hab hbc := by
    rw [hkey] at hab hbc ⊢
    exact Std.TransCmp.isLE_trans hab hbc

namespace Value

/-- The number of values that a value is directly made of. -/
@[simp] def size : Value → Nat
  | present _ => 1
  | @tuple n _ => n
  | _ => 0

@[simp] def answer : Value → Bool
  | bool answer => answer
  | _ => default

@[simp] def number : Value → Int64
  | int number => number
  | _ => 0

@[simp] def letter : Value → Char
  | char letter => letter
  | _ => default

@[simp] def letters : Value → String
  | text letters => letters
  | _ => ""

/-- Compare values without a look at the values inside them. -/
def compareOutside : Value → Value → Ordering :=
  compareLex (compareOn fun a => a.kind.rank) <| compareLex (compareOn size) <|
    compareLex (compareOn answer) <| compareLex (compareOn number) <|
      compareLex (compareOn letter) (compareOn letters)

instance : Std.TransCmp compareOutside :=
  inferInstanceAs (Std.TransCmp (compareLex _ _))

theorem compareOutside_apply (a b : Value) :
    compareOutside a b =
      (Ord.compare a.kind.rank b.kind.rank).then ((Ord.compare a.size b.size).then
        ((Ord.compare a.answer b.answer).then ((Ord.compare a.number b.number).then
          ((Ord.compare a.letter b.letter).then (Ord.compare a.letters b.letters))))) := rfl

mutual

/-- A value and all values inside it, each one before its parts. -/
def parts : Value → List Value
  | present inner => present inner :: parts inner
  | tuple slots => tuple slots :: slotParts slots
  | value => [value]

/-- The parts of all slots. -/
def slotParts {n : Nat} : Tuple Value n → List Value
  | .nil => []
  | .cons head tail => parts head ++ slotParts tail

end

mutual

/-- Lists that begin with the parts of two values are ordered by the values, and
    by what follows where the values are equal. -/
theorem compareLex_parts (xs ys : List Value) : (a b : Value) →
    List.compareLex compareOutside (parts a ++ xs) (parts b ++ ys) =
      (a.compare b).then (List.compareLex compareOutside xs ys)
  | int _, b | bool _, b | char _, b | text _, b | absent, b => by
    rw [compare_eq_then]
    cases b <;>
      simp [parts, List.compareLex_cons_cons, compareOutside_apply, kind, Kind.rank,
        Nat.compare_eq_ite_lt]
  | present a, b => by
    rw [compare_eq_then]
    cases b <;>
      simp [parts, List.compareLex_cons_cons, compareOutside_apply, kind, Kind.rank,
        Nat.compare_eq_ite_lt, compareLex_parts xs ys a]
  | @tuple n s, b => by
    cases b with
    | @tuple m t =>
      rw [compare_tuple]
      -- The slots of tuples of different arity are not looked at.
      by_cases harity : n = m
      · subst harity
        simp [parts, List.compareLex_cons_cons, compareOutside_apply, kind,
          compareSlots_eq_compare, compareLex_slotParts xs ys s]
      · have hne : Ord.compare n m ≠ .eq := fun heq => harity (Nat.compare_eq_eq.mp heq)
        cases hdecided : Ord.compare n m <;>
          simp_all [parts, List.compareLex_cons_cons, compareOutside_apply, kind]
    | _ =>
      rw [compare_eq_then]
      simp [parts, List.compareLex_cons_cons, compareOutside_apply, kind, Kind.rank,
        Nat.compare_eq_ite_lt]

theorem compareLex_slotParts (xs ys : List Value) {n : Nat} : (s t : Tuple Value n) →
    List.compareLex compareOutside (slotParts s ++ xs) (slotParts t ++ ys) =
      (s.compare compare t).then (List.compareLex compareOutside xs ys)
  | .nil, .nil => by simp [slotParts, Tuple.compare]
  | .cons a s, .cons b t => by
    simp only [slotParts, List.append_assoc, Tuple.compare_cons, Ordering.then_assoc]
    rw [compareLex_parts, compareLex_slotParts]

end

theorem compare_eq_compareLex_parts (a b : Value) :
    a.compare b = List.compareLex compareOutside a.parts b.parts := by
  simpa [List.compareLex_nil_nil] using (compareLex_parts [] [] a b).symm

instance : Std.TransCmp compare := transCmp_of_key parts compare_eq_compareLex_parts

theorem arity_eq_of_compareSlots_eq {n m : Nat} {s : Tuple Value n} {t : Tuple Value m}
    (hslots : compareSlots s t = .eq) : n = m := by
  induction s generalizing m with
  | nil =>
    cases t with
    | nil => rfl
    | cons b t => simp [compareSlots] at hslots
  | cons a s ih =>
    cases t with
    | nil => simp [compareSlots] at hslots
    | cons b t =>
      rw [compareSlots_cons, Ordering.then_eq_eq] at hslots
      exact congrArg (· + 1) (ih hslots.2)

mutual

/-- Equality and the order agree on which values are the same. -/
theorem beq_iff_compare_eq : (a b : Value) → (a.beq b = true ↔ a.compare b = .eq)
  | int _, b | bool _, b | char _, b | text _, b | absent, b => by
    rw [compare_eq_then]
    cases b <;> simp [beq, kind, Kind.rank, Nat.compare_eq_ite_lt]
  | present a, b => by
    rw [compare_eq_then]
    cases b <;> simp [beq, kind, Kind.rank, Nat.compare_eq_ite_lt, beq_iff_compare_eq a]
  | tuple s, b => by
    cases b with
    | tuple t =>
      rw [beq, beqSlots_iff_compareSlots_eq s t, compare_tuple, Ordering.then_eq_eq,
        Nat.compare_eq_eq]
      exact ⟨fun hslots => ⟨arity_eq_of_compareSlots_eq hslots, hslots⟩, And.right⟩
    | _ =>
      rw [compare_eq_then]
      simp [beq, kind, Kind.rank, Nat.compare_eq_ite_lt]

theorem beqSlots_iff_compareSlots_eq {n m : Nat} : (s : Tuple Value n) → (t : Tuple Value m) →
    (beqSlots s t = true ↔ compareSlots s t = .eq)
  | .nil, .nil | .nil, .cons _ _ | .cons _ _, .nil => by simp [beqSlots, compareSlots]
  | .cons a s, .cons b t => by
    rw [beqSlots, Bool.and_eq_true, beq_iff_compare_eq a b, beqSlots_iff_compareSlots_eq s t,
      compareSlots_cons, Ordering.then_eq_eq]

end

/-- Every named comparison but the constant ones that tell equals apart is that
    of a total order. -/
theorem Comparison.transCmp_ask {c : Comparison}
    (hconstant : ∀ answer, c = .always answer → answer = .eq) : Std.TransCmp c.ask := by
  cases c with
  | natural => exact inferInstanceAs (Std.TransCmp compare)
  | reverse => exact inferInstanceAs (Std.TransCmp fun a b => compare b a)
  | always answer =>
    obtain rfl := hconstant answer rfl
    exact { eq_swap := rfl, isLE_trans := fun _ _ => rfl }
  | kind => exact inferInstanceAs (Std.TransCmp (compareOn fun a : Value => a.kind.rank))
  | length => exact inferInstanceAs (Std.TransCmp (compareOn Value.length))

end Value

end Polyad
