import Polyad.Fault
import Polyad.Tuple.Slot
import Polyad.Tuple.Curried
/-!
Transformations by functions that may have effects: of one slot, of every slot
by a function of its own, and of the whole tuple at once. Each has a checked
twin for functions that may be missing. A twin looks for a missing function
before it calls any, so when one is missing none of them runs.
-/

namespace Polyad

universe u

namespace Fault

/-- The function that an operation needs, if it is there. -/
def require {φ : Type u} (operation argument : String) : Option φ → Except Fault φ
  | some f => .ok f
  | none => .error (.missing operation argument)

end Fault

namespace Tuple

variable {α β φ : Type u}

/-- Each slot through the function in the same position. -/
def mapEach {n : Nat} : Tuple (α → β) n → Tuple α n → Tuple β n
  | nil, nil => nil
  | cons f fs, cons head tail => cons (f head) (mapEach fs tail)

@[simp] theorem toList_mapEach {n : Nat} (fs : Tuple (α → β) n) (t : Tuple α n) :
    (mapEach fs t).toList = List.zipWith (fun f value => f value) fs.toList t.toList := by
  induction fs with
  | nil => cases t; rfl
  | cons f fs ih => cases t with | cons head tail => simp [mapEach, ih]

variable {m : Type u → Type u} [Monad m]

/-- Transform one slot by a function with effects. -/
def modifyM : {n : Nat} → Tuple α n → Fin n → (α → m α) → m (Tuple α n)
  | _, cons head tail, ⟨0, _⟩, f => do
    let value ← f head
    return cons value tail
  | _, cons head tail, ⟨k + 1, hk⟩, f => do
    let rest ← tail.modifyM ⟨k, Nat.lt_of_succ_lt_succ hk⟩ f
    return cons head rest

/-- Each slot through the function in the same position, first slot first. -/
def mapEachM {n : Nat} : Tuple (α → m β) n → Tuple α n → m (Tuple β n)
  | nil, nil => return nil
  | cons f fs, cons head tail => do
    let value ← f head
    let rest ← mapEachM fs tail
    return cons value rest

/-- The functions of an operation, or the fault that names the first missing
    one. They are numbered from `first`. -/
def require (operation : String) {n : Nat} (first : Nat) :
    Tuple (Option φ) n → Except Fault (Tuple φ n)
  | nil => .ok nil
  | cons f fs =>
    match Fault.require operation ("f" ++ toString first) f with
    | .error fault => .error fault
    | .ok f =>
      match fs.require operation (first + 1) with
      | .error fault => .error fault
      | .ok fs => .ok (cons f fs)

/-- Run an operation once everything it needs is there. -/
def checked (needed : Except Fault φ) (run : φ → m β) : m (Except Fault β) :=
  match needed with
  | .error fault => return .error fault
  | .ok found => .ok <$> run found

/-- `modifyM` for a function that may be missing. -/
def tryModifyM {n : Nat} (t : Tuple α n) (k : Fin n) (f : Option (α → m α)) :
    m (Except Fault (Tuple α n)) :=
  checked (Fault.require ("map" ++ toString (k.val + 1)) "f" f) (t.modifyM k)

/-- `mapEachM` for functions that may be missing. -/
def tryMapEachM {n : Nat} (fs : Tuple (Option (α → m β)) n) (t : Tuple α n) :
    m (Except Fault (Tuple β n)) :=
  checked (fs.require "map_each" 1) fun fs => mapEachM fs t

/-- `apply` for a function that may be missing. The fault names the operation
    that asked for it. -/
def tryApplyM (operation : String) {n : Nat} (t : Tuple α n) (f : Option (Curried α n (m β))) :
    m (Except Fault β) :=
  checked (Fault.require operation "f" f) t.apply

end Tuple

end Polyad
