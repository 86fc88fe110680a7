import Polyad.Tuple.Basic
/-!
Functions of as many arguments as a tuple has slots. Applying one to a tuple
hands it every slot in order; building a tuple is one of them.
-/

namespace Polyad

universe u

/-- A function of `n` arguments, taken one after another. -/
def Curried (α : Type u) : Nat → Type u → Type u
  | 0, β => β
  | n + 1, β => α → Curried α n β

namespace Curried

variable {α β γ : Type u}

/-- Work on the result of a function of any number of arguments. -/
def map (f : β → γ) : (n : Nat) → Curried α n β → Curried α n γ
  | 0, result => f result
  | n + 1, g => fun argument => map f n (g argument)

/-- A function of a tuple as a function of its slots. -/
def ofTuple : (n : Nat) → (Tuple α n → β) → Curried α n β
  | 0, f => f .nil
  | n + 1, f => fun argument => ofTuple n fun rest => f (.cons argument rest)

end Curried

namespace Tuple

variable {α β γ : Type u}

/-- Fold a tuple into one value by handing every slot to a function. -/
def apply : {n : Nat} → Tuple α n → Curried α n β → β
  | _, nil, result => result
  | _, cons head tail, f => tail.apply (f head)

/-- Build a tuple from its slots. -/
def build : (n : Nat) → Curried α n (Tuple α n)
  | 0 => nil
  | n + 1 => fun head => (build n).map (cons head) n

theorem apply_map {n : Nat} (t : Tuple α n) (f : β → γ) (g : Curried α n β) :
    t.apply (g.map f n) = f (t.apply g) := by
  induction t with
  | nil => rfl
  | cons head tail ih => exact ih (g head)

/-- Building a tuple from its own slots gives it back. -/
theorem apply_build {n : Nat} (t : Tuple α n) : t.apply (build n) = t := by
  induction t with
  | nil => rfl
  | cons head tail ih => simp [apply, build, apply_map, ih]

theorem apply_ofTuple {n : Nat} (t : Tuple α n) (f : Tuple α n → β) :
    t.apply (Curried.ofTuple n f) = f t := by
  induction t with
  | nil => rfl
  | cons head tail ih => exact ih fun rest => f (cons head rest)

end Tuple

end Polyad
