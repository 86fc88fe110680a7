import Polyad.Fault
import Polyad.Tuple.Slot
import Polyad.Tuple.Append
import Polyad.Tuple.Order
import Polyad.Tuple.Pair
/-!
Tuples whose arity is known only while a program runs. An operation that does
not exist at the arity found there answers `none`. Appending is limited more
tightly than the arity is, and a refused append says why.
-/

namespace Polyad

universe u

/-- The largest arity of the family. -/
def maxArity : Nat := 7

/-- The largest arity that appending to a packed tuple produces. -/
def appendLimit : Nat := 5

/-- A tuple packed together with its arity. -/
structure Packed (α : Type u) where
  arity : Nat
  slots : Tuple α arity
  arity_le : arity ≤ maxArity

namespace Packed

variable {α : Type u}

/-- The slots in order. -/
def toList (t : Packed α) : List α :=
  t.slots.toList

@[simp] theorem length_toList (t : Packed α) : t.toList.length = t.arity := t.slots.length_toList

/-- Packed tuples with the same slots in the same order are equal. -/
theorem toList_injective {a b : Packed α} (hlist : a.toList = b.toList) : a = b := by
  obtain ⟨n, s, hn⟩ := a
  obtain ⟨m, t, hm⟩ := b
  have harity : n = m := by
    have hlength := congrArg List.length hlist
    simpa [toList] using hlength
  subst harity
  obtain rfl := Tuple.toList_injective hlist
  rfl

/-- The tuple of the given values, if there are not too many. -/
def ofList? (values : List α) : Option (Packed α) :=
  if h : values.length ≤ maxArity then some ⟨_, .ofList values, h⟩ else none

theorem ofList?_eq_some {values : List α} {t : Packed α} :
    ofList? values = some t ↔ values = t.toList := by
  have hroom : t.toList.length ≤ maxArity := t.length_toList ▸ t.arity_le
  constructor
  · intro hsome
    unfold ofList? at hsome
    split at hsome
    · cases hsome
      exact (Tuple.toList_ofList values).symm
    · simp at hsome
  · rintro rfl
    simp only [ofList?, hroom, ↓reduceDIte, Option.some.injEq]
    exact toList_injective (Tuple.toList_ofList t.toList)

/-- The tuple without slots. -/
def unit : Packed α :=
  ⟨0, .nil, Nat.zero_le _⟩

/-- The tuple of one slot. -/
def single (value : α) : Packed α :=
  ⟨1, .cons value .nil, by decide⟩

/-- The tuple with every slot empty, which only tuples with slots have. -/
def empty? (n : Nat) : Option (Packed (Option α)) :=
  if h : 0 < n ∧ n ≤ maxArity then some ⟨n, .empty n, h.2⟩ else none

/-- The tuple with a default value in every slot. -/
def default? [Inhabited α] (n : Nat) : Option (Packed α) :=
  if h : n ≤ maxArity then some ⟨n, .replicate n default, h⟩ else none

/-- The same function on every slot. -/
def map {β : Type u} (f : α → β) (t : Packed α) : Packed β :=
  { t with slots := t.slots.map f }

/-- The slot with a number, if there is one. -/
def slot? (t : Packed α) (number : Nat) : Option (Fin t.arity) :=
  Tuple.slot? t.arity number

/-- The value in the slot with a number. -/
def get? (t : Packed α) (number : Nat) : Option α :=
  (t.slot? number).map t.slots.get

theorem get?_succ (t : Packed α) (k : Nat) : t.get? (k + 1) = t.toList[k]? := by
  by_cases hk : k < t.arity
  · have hslot : t.slot? (k + 1) = some ⟨k, hk⟩ := Tuple.slot?_eq_some.mpr rfl
    rw [get?, hslot, toList, t.slots.getElem?_toList ⟨k, hk⟩]
    rfl
  · have hslot : t.slot? (k + 1) = none := by
      simp only [slot?, Tuple.slot?]
      rw [dif_neg (by omega)]
    have hlength := t.length_toList
    rw [get?, hslot, List.getElem?_eq_none (by omega)]
    rfl

/-- Replace the slot with a number. -/
def set? (t : Packed α) (number : Nat) (value : α) : Option (Packed α) :=
  (t.slot? number).map fun k => { t with slots := t.slots.set k value }

theorem map_toList_set? (t : Packed α) (number : Nat) (value : α) :
    (t.set? number value).map toList =
      if 0 < number ∧ number ≤ t.arity then some (t.toList.set (number - 1) value) else none := by
  unfold set? slot? Tuple.slot?
  split <;> simp [toList]

/-- Drop the slot with a number. -/
def erase? (t : Packed α) (number : Nat) : Option (Packed α) :=
  match t with
  | ⟨0, _, _⟩ => none
  | ⟨n + 1, slots, harity⟩ =>
    (Tuple.slot? (n + 1) number).map fun k => ⟨n, slots.erase k, Nat.le_of_succ_le harity⟩

theorem map_toList_erase? (t : Packed α) (number : Nat) :
    (t.erase? number).map toList =
      if 0 < number ∧ number ≤ t.arity then some (t.toList.eraseIdx (number - 1)) else none := by
  obtain ⟨n, slots, harity⟩ := t
  cases n with
  | zero =>
    rw [if_neg (by simp; omega)]
    rfl
  | succ n =>
    unfold erase? Tuple.slot?
    simp only []
    split <;> simp [toList]

/-- Grow by one slot at the front, below the largest arity. -/
def pushFront? (t : Packed α) (value : α) : Option (Packed α) :=
  if h : t.arity + 1 ≤ maxArity then some ⟨_, .cons value t.slots, h⟩ else none

theorem map_toList_pushFront? (t : Packed α) (value : α) :
    (t.pushFront? value).map toList =
      if t.arity + 1 ≤ maxArity then some (value :: t.toList) else none := by
  unfold pushFront?
  split <;> simp [toList]

/-- Grow by one slot at the back, below the largest arity. -/
def pushBack? (t : Packed α) (value : α) : Option (Packed α) :=
  if h : t.arity + 1 ≤ maxArity then some ⟨_, t.slots.push value, h⟩ else none

theorem map_toList_pushBack? (t : Packed α) (value : α) :
    (t.pushBack? value).map toList =
      if t.arity + 1 ≤ maxArity then some (t.toList ++ [value]) else none := by
  unfold pushBack?
  split <;> simp [toList]

/-- Grow by one slot at the back. Which arities grow in this way is listed arity by
    arity, and the limit is only named in the answer to the others. -/
def append (t : Packed α) (value : α) : Except Fault (Packed α) :=
  match t with
  | ⟨0, slots, _⟩ => .ok ⟨1, slots.push value, by decide⟩
  | ⟨1, slots, _⟩ => .ok ⟨2, slots.push value, by decide⟩
  | ⟨2, slots, _⟩ => .ok ⟨3, slots.push value, by decide⟩
  | ⟨3, slots, _⟩ => .ok ⟨4, slots.push value, by decide⟩
  | ⟨4, slots, _⟩ => .ok ⟨5, slots.push value, by decide⟩
  | ⟨5, _, _⟩ | ⟨6, _, _⟩ | ⟨7, _, _⟩ => .error (.unsupported "append" t.arity appendLimit)
  | ⟨_ + 8, _, harity⟩ => absurd harity (by simp [maxArity])

/-- Every arity below the limit is one of those that grow, each as a tuple of a known
    arity does. -/
theorem append_eq_ok {t : Packed α} (hroom : t.arity < appendLimit) (value : α) :
    ∃ hfits, t.append value = .ok ⟨t.arity + 1, t.slots.push value, hfits⟩ := by
  obtain ⟨n, slots, harity⟩ := t
  match n, slots, harity, hroom with
  | 0, _, _, _ | 1, _, _, _ | 2, _, _, _ | 3, _, _, _ | 4, _, _, _ => exact ⟨_, rfl⟩

/-- Every arity from the limit on is one of those that are refused, and the answer
    names it. -/
theorem append_eq_error {t : Packed α} (hfull : appendLimit ≤ t.arity) (value : α) :
    t.append value = .error (.unsupported "append" t.arity appendLimit) := by
  obtain ⟨n, slots, harity⟩ := t
  match n, slots, harity, hfull with
  | 5, _, _, _ | 6, _, _, _ | 7, _, _, _ => rfl

theorem map_toList_append (t : Packed α) (value : α) :
    (t.append value).map toList =
      if t.arity < appendLimit then .ok (t.toList ++ [value])
      else .error (.unsupported "append" t.arity appendLimit) := by
  split
  case isTrue hroom =>
    obtain ⟨hfits, hnext⟩ := append_eq_ok hroom value
    rw [hnext]
    exact congrArg Except.ok (t.slots.toList_push value)
  case isFalse hfull =>
    rw [append_eq_error (Nat.le_of_not_lt hfull)]
    rfl

/-- Join two tuples whose slots fit into one. -/
def join? (t other : Packed α) : Option (Packed α) :=
  if h : other.arity + t.arity ≤ maxArity then some ⟨_, t.slots.append other.slots, h⟩ else none

theorem map_toList_join? (t other : Packed α) :
    (t.join? other).map toList =
      if other.arity + t.arity ≤ maxArity then some (t.toList ++ other.toList) else none := by
  unfold join?
  split <;> simp [toList]

/-- Join with a tuple of `m` slots that may be missing. -/
def pad? (wrap : Option α → α) (t : Packed α) {m : Nat} (other : Option (Tuple α m)) :
    Option (Packed α) :=
  if h : m + t.arity ≤ maxArity then some ⟨_, t.slots.pad wrap other, h⟩ else none

theorem map_toList_pad? (wrap : Option α → α) (t : Packed α) {m : Nat}
    (other : Option (Tuple α m)) :
    (t.pad? wrap other).map toList =
      if m + t.arity ≤ maxArity then some (t.toList ++ (Tuple.padding wrap other).toList)
      else none := by
  unfold pad?
  split <;> simp [toList]

/-- The slots as those of a pair, if there are two. -/
def pair? (t : Packed α) : Option (Tuple α 2) :=
  match t with
  | ⟨2, slots, _⟩ => some slots
  | _ => none

/-- The slots as those of a tuple of a given arity, if that is the arity. -/
def toTuple? (t : Packed α) (n : Nat) : Option (Tuple α n) :=
  if h : t.arity = n then some (h ▸ t.slots) else none

/-- Exchange the slots of a pair. -/
def swap? (t : Packed α) : Option (Packed α) :=
  t.pair?.map fun pair => ⟨2, pair.swap, by decide⟩

theorem map_toList_swap? (t : Packed α) :
    t.swap?.map toList = if t.arity = 2 then some t.toList.reverse else none := by
  obtain ⟨n, slots, harity⟩ := t
  match n, slots with
  | 0, _ => rfl
  | 1, _ => rfl
  | 2, .cons first (.cons second .nil) => rfl
  | n + 3, _ =>
    rw [if_neg (show n + 3 ≠ 2 by omega)]
    rfl

/-- Tuples of different arities are never equal. -/
def beq (eq : α → α → Bool) (a b : Packed α) : Bool :=
  match b.toTuple? a.arity with
  | some slots => a.slots.beq eq slots
  | none => false

end Packed

end Polyad
