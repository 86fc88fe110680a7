import Polyad.Tuple.Basic
/-!
Operations on one slot: replace it, drop it, or transform it. On the list of
slots these are replacing, erasing and modifying the element at its position.
-/

namespace Polyad.Tuple

universe u

variable {α : Type u}

/-- Replace one slot and keep every other slot as it is. -/
def set : {n : Nat} → Tuple α n → Fin n → α → Tuple α n
  | _, cons _ tail, ⟨0, _⟩, value => cons value tail
  | _, cons head tail, ⟨k + 1, hk⟩, value =>
    cons head (tail.set ⟨k, Nat.lt_of_succ_lt_succ hk⟩ value)

@[simp] theorem toList_set {n : Nat} (t : Tuple α n) (k : Fin n) (value : α) :
    (t.set k value).toList = t.toList.set k.val value := by
  induction t with
  | nil => exact k.elim0
  | cons head tail ih =>
    obtain ⟨k, hk⟩ := k
    cases k with
    | zero => rfl
    | succ k => simp [set, ih]

/-- Drop one slot. Each slot after it moves down one position. -/
def erase : {n : Nat} → Tuple α (n + 1) → Fin (n + 1) → Tuple α n
  | _, cons _ tail, ⟨0, _⟩ => tail
  | _ + 1, cons head tail, ⟨k + 1, hk⟩ => cons head (tail.erase ⟨k, Nat.lt_of_succ_lt_succ hk⟩)

@[simp] theorem toList_erase {n : Nat} (t : Tuple α (n + 1)) (k : Fin (n + 1)) :
    (t.erase k).toList = t.toList.eraseIdx k.val := by
  induction n with
  | zero =>
    cases t with
    | cons head tail =>
      obtain ⟨k, hk⟩ := k
      obtain rfl : k = 0 := by omega
      rfl
  | succ n ih =>
    cases t with
    | cons head tail =>
      obtain ⟨k, hk⟩ := k
      cases k with
      | zero => rfl
      | succ k => simp [erase, ih]

/-- Transform one slot and keep every other slot as it is. -/
def modify : {n : Nat} → Tuple α n → Fin n → (α → α) → Tuple α n
  | _, cons head tail, ⟨0, _⟩, f => cons (f head) tail
  | _, cons head tail, ⟨k + 1, hk⟩, f =>
    cons head (tail.modify ⟨k, Nat.lt_of_succ_lt_succ hk⟩ f)

@[simp] theorem toList_modify {n : Nat} (t : Tuple α n) (k : Fin n) (f : α → α) :
    (t.modify k f).toList = t.toList.modify k.val f := by
  induction t with
  | nil => exact k.elim0
  | cons head tail ih =>
    obtain ⟨k, hk⟩ := k
    cases k with
    | zero => rfl
    | succ k => simp [modify, ih]

end Polyad.Tuple
