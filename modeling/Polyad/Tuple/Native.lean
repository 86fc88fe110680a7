import Polyad.Tuple.Basic
/-!
Tuples as nested pairs, the form that a language has built in. Both directions
keep every slot in its place.
-/

namespace Polyad

universe u

/-- `n` values in nested pairs. -/
def Nested (α : Type u) : Nat → Type u
  | 0 => PUnit
  | n + 1 => α × Nested α n

namespace Nested

variable {α : Type u}

/-- The values in order. -/
def toList : {n : Nat} → Nested α n → List α
  | 0, _ => []
  | _ + 1, (head, tail) => head :: toList tail

end Nested

namespace Tuple

variable {α : Type u}

/-- The slots in nested pairs. -/
def toNested : {n : Nat} → Tuple α n → Nested α n
  | _, nil => PUnit.unit
  | _, cons head tail => (head, tail.toNested)

/-- The tuple of the values in nested pairs. -/
def ofNested : {n : Nat} → Nested α n → Tuple α n
  | 0, _ => nil
  | _ + 1, (head, tail) => cons head (ofNested tail)

@[simp] theorem ofNested_toNested {n : Nat} (t : Tuple α n) : ofNested t.toNested = t := by
  induction t with
  | nil => rfl
  | cons head tail ih => simp [toNested, ofNested, ih]

@[simp] theorem toNested_ofNested {n : Nat} (x : Nested α n) : (ofNested x).toNested = x := by
  induction n with
  | zero => cases x; rfl
  | succ n ih =>
    obtain ⟨head, tail⟩ := x
    exact congrArg (Prod.mk head) (ih tail)

@[simp] theorem toList_toNested {n : Nat} (t : Tuple α n) : t.toNested.toList = t.toList := by
  induction t with
  | nil => rfl
  | cons head tail ih => simp [toNested, Nested.toList, ih]

end Tuple

end Polyad
