import Polyad.Tuple.Basic
/-!
Growth into larger arities: one slot at the back, all the slots of another
tuple, or the slots of a tuple that may be missing. Growth at the front is
`cons` itself. The limits on the result live with the operations that have
one; here every pair of arities can be joined.
-/

namespace Polyad.Tuple

universe u v

variable {α : Type u} {β : Type v}

/-- Grow by one slot at the back. Every existing slot keeps its position. -/
def push {n : Nat} : Tuple α n → α → Tuple α (n + 1)
  | nil, value => cons value nil
  | cons head tail, value => cons head (tail.push value)

@[simp] theorem toList_push {n : Nat} (t : Tuple α n) (value : α) :
    (t.push value).toList = t.toList ++ [value] := by
  induction t with
  | nil => rfl
  | cons head tail ih => simp [push, ih]

/-- The slots of the first tuple keep their positions and those of the second
    follow them in order. -/
def append {n m : Nat} : Tuple α n → Tuple α m → Tuple α (m + n)
  | nil, other => other
  | cons head tail, other => cons head (tail.append other)

@[simp] theorem toList_append {n m : Nat} (t : Tuple α n) (other : Tuple α m) :
    (t.append other).toList = t.toList ++ other.toList := by
  induction t with
  | nil => rfl
  | cons head tail ih => simp [append, ih]

/-- A tuple whose every slot is empty. -/
def empty (n : Nat) : Tuple (Option α) n :=
  replicate n none

/-- The slots contributed by a tuple that may be missing: all present or all
    absent. `wrap` says how an optional value is held in a slot. -/
def padding (wrap : Option β → α) : {m : Nat} → Option (Tuple β m) → Tuple α m
  | 0, _ => nil
  | _ + 1, some (cons head tail) => cons (wrap (some head)) (padding wrap (some tail))
  | _ + 1, none => cons (wrap none) (padding wrap none)

@[simp] theorem toList_padding_some (wrap : Option β → α) {m : Nat} (t : Tuple β m) :
    (padding wrap (some t)).toList = t.toList.map fun value => wrap (some value) := by
  induction t with
  | nil => rfl
  | cons head tail ih => simp [padding, ih]

@[simp] theorem toList_padding_none (wrap : Option β → α) (m : Nat) :
    (padding wrap (none : Option (Tuple β m))).toList = List.replicate m (wrap none) := by
  induction m with
  | zero => rfl
  | succ m ih => simp [padding, ih, List.replicate_succ]

/-- Join with a tuple that may be missing. The arity of the result is the
    same whether or not it is. -/
def pad {n m : Nat} (wrap : Option β → α) : Tuple α n → Option (Tuple β m) → Tuple α (m + n)
  | nil, other => padding wrap other
  | cons head tail, other => cons head (tail.pad wrap other)

@[simp] theorem toList_pad {n m : Nat} (wrap : Option β → α) (t : Tuple α n)
    (other : Option (Tuple β m)) :
    (t.pad wrap other).toList = t.toList ++ (padding wrap other).toList := by
  induction t with
  | nil => rfl
  | cons head tail ih => simp [pad, ih]

end Polyad.Tuple
