import Polyad.Proofs.Packed.Growth
import Polyad.Proofs.Session.Calls
/-!
Operations on single slots, and how they go together with each other and with
growth. An operation on one slot leaves every other slot as it is, and where a
slot has moved, it is met again under the number that it has then.
-/

namespace Polyad

universe u

namespace Tuple

variable {α : Type u} {n : Nat}

theorem get_set_self (t : Tuple α n) (k : Fin n) (value : α) : (t.set k value).get k = value := by
  apply Option.some_inj.mp
  rw [← getElem?_toList, toList_set, List.getElem?_set_self (by simp)]

theorem get_set_of_ne (t : Tuple α n) {k i : Fin n} (hne : i ≠ k) (value : α) :
    (t.set k value).get i = t.get i := by
  apply Option.some_inj.mp
  rw [← getElem?_toList, ← getElem?_toList, toList_set,
    List.getElem?_set_ne (Fin.val_ne_of_ne hne.symm)]

theorem set_set (t : Tuple α n) (k : Fin n) (value last : α) :
    (t.set k value).set k last = t.set k last :=
  toList_injective (by simp)

theorem set_get (t : Tuple α n) (k : Fin n) : t.set k (t.get k) = t := by
  refine (t.set_get_eq_modify k id).trans (toList_injective ?_)
  rw [toList_modify, List.modify_id]

end Tuple

/-- An operation on one slot. -/
inductive SlotChange (α : Type u) where
  | set (value : α)
  | modify (f : α → α)
  | erase

/-- Transform the slot with a number. -/
def Packed.modify? {α : Type u} (t : Packed α) (number : Nat) (f : α → α) : Option (Packed α) :=
  (t.slot? number).map fun k => { t with slots := t.slots.modify k f }

namespace Packed

variable {α : Type u} {t : Packed α} {number : Nat} {k : Fin t.arity}

theorem get?_of_slot? (hslot : t.slot? number = some k) :
    t.get? number = some (t.slots.get k) := by
  rw [get?, hslot, Option.map_some]

theorem set?_of_slot? (hslot : t.slot? number = some k) (value : α) :
    t.set? number value = some { t with slots := t.slots.set k value } := by
  rw [set?, hslot, Option.map_some]

/-- Reading, writing and transforming the slot with a number belong together. -/
structure SlotLens (t : Packed α) (number : Nat) : Prop where
  isSome_get : (t.get? number).isSome = true ↔ 0 < number ∧ number ≤ t.arity
  get_set : ∀ value,
    ((t.set? number value).bind fun u => u.get? number) = (t.get? number).map fun _ => value
  set_get : (t.get? number).bind (t.set? number) = (t.get? number).map fun _ => t
  set_set : ∀ value last,
    ((t.set? number value).bind fun u => u.set? number last) = t.set? number last
  get_set_other : ∀ value other, other ≠ number →
    ((t.set? number value).bind fun u => u.get? other) =
      (t.set? number value).bind fun _ => t.get? other
  modify_eq : ∀ f, t.modify? number f = (t.get? number).bind fun value => t.set? number (f value)

theorem slotLens (t : Packed α) (number : Nat) : SlotLens t number := by
  cases hslot : t.slot? number with
  | none =>
    have hget : t.get? number = none := by rw [get?, hslot, Option.map_none]
    have hset (value : α) : t.set? number value = none := by rw [set?, hslot, Option.map_none]
    have hmodify (f : α → α) : t.modify? number f = none := by
      rw [modify?, hslot, Option.map_none]
    have hnumber : ¬ (0 < number ∧ number ≤ t.arity) := Tuple.slot?_eq_none.mp hslot
    constructor <;> simp [hget, hset, hmodify, hnumber]
  | some k =>
    have hget := get?_of_slot? hslot
    have hset := set?_of_slot? hslot
    have hslotAfter (value : α) :
        slot? { t with slots := t.slots.set k value } number = some k := hslot
    have hnumber : number = k.val + 1 := Tuple.slot?_eq_some.mp hslot
    constructor
    case isSome_get =>
      have hk := k.isLt
      rw [hget]
      exact iff_of_true rfl (by omega)
    case get_set =>
      intro value
      rw [hset, Option.bind_some, get?_of_slot? (hslotAfter value), hget, Tuple.get_set_self]
      rfl
    case set_get =>
      rw [hget, Option.bind_some, hset, Tuple.set_get]
      rfl
    case set_set =>
      intro value last
      rw [hset, hset, Option.bind_some, set?_of_slot? (hslotAfter value), Tuple.set_set]
    case get_set_other =>
      intro value other hne
      rw [hset, Option.bind_some, Option.bind_some]
      refine Option.map_congr fun i hi => t.slots.get_set_of_ne (fun hsame => ?_) value
      have hother : other = i.val + 1 := Tuple.slot?_eq_some.mp hi
      exact hne (by rw [hother, hnumber, hsame])
    case modify_eq =>
      intro f
      rw [hget, Option.bind_some, hset, Tuple.set_get_eq_modify, modify?, hslot, Option.map_some]

end Packed

namespace SlotChange

variable {α : Type u}

/-- The tuple after an operation on the slot with a number. -/
def at? (c : SlotChange α) (number : Nat) (t : Packed α) : Option (Packed α) :=
  match c with
  | set value => t.set? number value
  | modify f => t.modify? number f
  | erase => t.erase? number

/-- The number of slots that are lost. All slots after the one that is operated
    on move down by so many positions. -/
def lost : SlotChange α → Nat
  | set _ | modify _ => 0
  | erase => 1

/-- What stands in the place of a slot after an operation on it. -/
def result : SlotChange α → α → List α
  | set value, _ => [value]
  | modify f, old => [f old]
  | erase, _ => []

/-- What an operation makes of a list of slots. -/
def edit (c : SlotChange α) : Nat → List α → List α
  | _, [] => []
  | 0, slot :: rest => c.result slot ++ rest
  | k + 1, slot :: rest => slot :: edit c k rest

theorem lost_le_one : (c : SlotChange α) → c.lost ≤ 1
  | set _ | modify _ => Nat.zero_le 1
  | erase => Nat.le_refl 1

@[simp] theorem edit_nil (c : SlotChange α) (k : Nat) : c.edit k [] = [] := by
  cases k <;> rfl

theorem length_result_add_lost (c : SlotChange α) (slot : α) :
    (c.result slot).length + c.lost = 1 := by
  cases c <;> rfl

theorem length_edit_add_lost (c : SlotChange α) {k : Nat} {slots : List α}
    (hk : k < slots.length) : (c.edit k slots).length + c.lost = slots.length := by
  induction slots generalizing k with
  | nil => exact absurd hk (Nat.not_lt_zero k)
  | cons slot rest ih =>
    cases k with
    | zero =>
      rw [edit, List.length_append, Nat.add_right_comm, length_result_add_lost,
        List.length_cons, Nat.add_comm]
    | succ k =>
      rw [edit, List.length_cons, List.length_cons, Nat.add_right_comm,
        ih (Nat.lt_of_succ_lt_succ hk)]

theorem edit_append_left (c : SlotChange α) {k : Nat} {front : List α} (hk : k < front.length)
    (back : List α) : c.edit k (front ++ back) = c.edit k front ++ back := by
  induction front generalizing k with
  | nil => exact absurd hk (Nat.not_lt_zero k)
  | cons slot rest ih =>
    cases k with
    | zero => exact (List.append_assoc _ rest back).symm
    | succ k => exact congrArg (slot :: ·) (ih (Nat.lt_of_succ_lt_succ hk))

theorem edit_append_right (c : SlotChange α) (k : Nat) (front back : List α) :
    c.edit (front.length + k) (front ++ back) = front ++ c.edit k back := by
  induction front with
  | nil => rw [List.length_nil, Nat.zero_add, List.nil_append, List.nil_append]
  | cons slot rest ih =>
    rw [List.length_cons, Nat.add_right_comm, List.cons_append, edit, ih, List.cons_append]

/-- Operations at two positions can be exchanged. The later position has moved
    down by what was lost at the earlier one. -/
theorem edit_edit (c d : SlotChange α) {j k : Nat} (hjk : j < k) (slots : List α) :
    d.edit j (c.edit k slots) = c.edit (k - d.lost) (d.edit j slots) := by
  induction slots generalizing j k with
  | nil => simp only [edit_nil]
  | cons slot rest ih =>
    obtain ⟨k, rfl⟩ := Nat.exists_eq_add_one_of_ne_zero (Nat.ne_zero_of_lt hjk)
    cases j with
    | zero =>
      -- What is behind the first slot begins where the result of `d` ends.
      have hlength := d.length_result_add_lost slot
      have hk : k + 1 - d.lost = (d.result slot).length + k := by omega
      rw [edit, edit, edit, hk, edit_append_right]
    | succ j =>
      have hlost := d.lost_le_one
      have hk : k + 1 - d.lost = k - d.lost + 1 := by omega
      rw [edit, edit, edit, hk, edit, ih (Nat.lt_of_succ_lt_succ hjk)]

/-- A function that changes one slot and goes past the slots before it is known
    by what it does to the first slot. -/
theorem edit_unique (c : SlotChange α) (change : Nat → List α → List α)
    (hnil : ∀ k, change k [] = [])
    (hzero : ∀ slot rest, change 0 (slot :: rest) = c.result slot ++ rest)
    (hsucc : ∀ k slot rest, change (k + 1) (slot :: rest) = slot :: change k rest)
    (k : Nat) (slots : List α) : c.edit k slots = change k slots := by
  induction slots generalizing k with
  | nil => rw [edit_nil, hnil]
  | cons slot rest ih =>
    cases k with
    | zero => exact (hzero slot rest).symm
    | succ k => rw [edit, ih, hsucc]

theorem edit_set (value : α) (k : Nat) (slots : List α) :
    (set value).edit k slots = slots.set k value :=
  (set value).edit_unique (fun k slots => slots.set k value) (fun _ => List.set_nil)
    (fun _ _ => rfl) (fun _ _ _ => rfl) k slots

theorem edit_modify (f : α → α) (k : Nat) (slots : List α) :
    (modify f).edit k slots = slots.modify k f :=
  (modify f).edit_unique (fun k slots => slots.modify k f) (List.modify_nil f)
    (fun _ _ => rfl) (fun _ _ _ => rfl) k slots

theorem edit_erase (k : Nat) (slots : List α) : erase.edit k slots = slots.eraseIdx k :=
  erase.edit_unique (fun k slots => slots.eraseIdx k) (fun _ => List.eraseIdx_nil)
    (fun _ _ => rfl) (fun _ _ _ => rfl) k slots

/-- What an operation on the slot with a number makes of a list of slots. -/
def edit? (c : SlotChange α) (number : Nat) (slots : List α) : Option (List α) :=
  if 0 < number ∧ number ≤ slots.length then some (c.edit (number - 1) slots) else none

theorem map_toList_at? (c : SlotChange α) (number : Nat) (t : Packed α) :
    (c.at? number t).map Packed.toList = c.edit? number t.toList := by
  rw [edit?, t.length_toList]
  cases c with
  | set value => rw [edit_set, ← t.map_toList_set?, at?]
  | modify f =>
    rw [edit_modify, at?]
    unfold Packed.modify? Packed.slot? Tuple.slot?
    split <;> simp [Packed.toList]
  | erase => rw [edit_erase, ← t.map_toList_erase?, at?]

theorem edit?_of_range (c : SlotChange α) {number : Nat} {slots : List α}
    (hrange : 0 < number ∧ number ≤ slots.length) :
    c.edit? number slots = some (c.edit (number - 1) slots) :=
  if_pos hrange

theorem edit?_eq_none (c : SlotChange α) {number : Nat} {slots : List α}
    (hrange : ¬ (0 < number ∧ number ≤ slots.length)) : c.edit? number slots = none :=
  if_neg hrange

theorem edit?_eq_some {c : SlotChange α} {number : Nat} {slots edited : List α} :
    c.edit? number slots = some edited ↔
      (0 < number ∧ number ≤ slots.length) ∧ c.edit (number - 1) slots = edited := by
  rw [edit?, Option.ite_none_right_eq_some, Option.some_inj]

theorem length_of_edit? {c : SlotChange α} {number : Nat} {slots edited : List α}
    (hedited : c.edit? number slots = some edited) : edited.length + c.lost = slots.length := by
  obtain ⟨⟨hpositive, hle⟩, rfl⟩ := edit?_eq_some.mp hedited
  exact c.length_edit_add_lost (by omega)

theorem edit?_edit? (c d : SlotChange α) {j k : Nat} (hjk : j < k) (slots : List α) :
    (c.edit? k slots).bind (d.edit? j) = (d.edit? j slots).bind (c.edit? (k - d.lost)) := by
  by_cases hrange : 0 < j ∧ k ≤ slots.length
  · have hc : c.edit? k slots = some (c.edit (k - 1) slots) := c.edit?_of_range (by omega)
    have hd : d.edit? j slots = some (d.edit (j - 1) slots) := d.edit?_of_range (by omega)
    have hcLength := length_of_edit? hc
    have hdLength := length_of_edit? hd
    have hcLost := c.lost_le_one
    have hdLost := d.lost_le_one
    rw [hc, hd, Option.bind_some, Option.bind_some, d.edit?_of_range (by omega),
      c.edit?_of_range (by omega), c.edit_edit d (by omega), Nat.sub_right_comm]
  · -- If one operation finds no slot, it finds none after the other one either.
    have hleft : (c.edit? k slots).bind (d.edit? j) = none := by
      refine Option.bind_eq_none_iff.mpr fun edited hedited => d.edit?_eq_none ?_
      have hk := (edit?_eq_some.mp hedited).1
      omega
    have hright : (d.edit? j slots).bind (c.edit? (k - d.lost)) = none := by
      refine Option.bind_eq_none_iff.mpr fun edited hedited => c.edit?_eq_none ?_
      have hj := (edit?_eq_some.mp hedited).1
      have hlength := length_of_edit? hedited
      omega
    rw [hleft, hright]

/-- On a list that is joined from two, the slot with a number is one of the first
    list or one of the second. -/
theorem edit?_append (c : SlotChange α) (number : Nat) (front back : List α) :
    c.edit? number (front ++ back) =
      if number ≤ front.length then (c.edit? number front).map (· ++ back)
      else (c.edit? (number - front.length) back).map (front ++ ·) := by
  have hlength : (front ++ back).length = front.length + back.length := List.length_append
  by_cases hfront : number ≤ front.length
  · rw [if_pos hfront]
    by_cases hpositive : 0 < number
    · rw [c.edit?_of_range (by omega), c.edit?_of_range ⟨hpositive, hfront⟩,
        c.edit_append_left (by omega), Option.map_some]
    · rw [c.edit?_eq_none (by omega), c.edit?_eq_none (by omega), Option.map_none]
  · rw [if_neg hfront]
    by_cases hback : number - front.length ≤ back.length
    · have hnumber : number - 1 = front.length + (number - front.length - 1) := by omega
      rw [c.edit?_of_range (by omega), c.edit?_of_range (by omega), hnumber, edit_append_right,
        Option.map_some]
    · rw [c.edit?_eq_none (by omega), c.edit?_eq_none (by omega), Option.map_none]

/-- An operation gives a tuple exactly if there is a slot with the number. -/
theorem isSome_at?_iff (c : SlotChange α) (number : Nat) (t : Packed α) :
    (c.at? number t).isSome = true ↔ 0 < number ∧ number ≤ t.arity := by
  have hlist := c.map_toList_at? number t
  rw [edit?, t.length_toList] at hlist
  rw [← Option.isSome_map (f := Packed.toList), hlist]
  split
  · exact iff_of_true rfl ‹_›
  · exact iff_of_false Bool.false_ne_true ‹_›

theorem at?_eq_bind_ofList? (c : SlotChange α) (number : Nat) (t : Packed α) :
    c.at? number t = (c.edit? number t.toList).bind Packed.ofList? := by
  have hlist := c.map_toList_at? number t
  cases hresult : c.at? number t with
  | none =>
    rw [hresult, Option.map_none] at hlist
    rw [← hlist, Option.bind_none]
  | some u =>
    rw [hresult, Option.map_some] at hlist
    rw [← hlist, Option.bind_some, u.ofList?_toList]

theorem map_toList_bind {x : Option (Packed α)} {f : Packed α → Option (Packed α)}
    {g : List α → Option (List α)} (hf : ∀ t, (f t).map Packed.toList = g t.toList) :
    (x.bind f).map Packed.toList = (x.map Packed.toList).bind g := by
  cases x with
  | none => rfl
  | some t => exact hf t

theorem at?_at? (c d : SlotChange α) {j k : Nat} (hjk : j < k) (t : Packed α) :
    (c.at? k t).bind (d.at? j) = (d.at? j t).bind (c.at? (k - d.lost)) := by
  apply Packed.eq_of_map_toList
  rw [map_toList_bind (d.map_toList_at? j), map_toList_bind (c.map_toList_at? (k - d.lost)),
    map_toList_at?, map_toList_at?, c.edit?_edit? d hjk]

theorem at?_of_join? (c : SlotChange α) (number : Nat) {t other joined : Packed α}
    (hjoined : t.join? other = some joined) :
    c.at? number joined =
      if number ≤ t.arity then (c.at? number t).bind fun u => u.join? other
      else (c.at? (number - t.arity) other).bind t.join? := by
  have hslots : joined.toList = t.toList ++ other.toList := by
    rw [Packed.join?_eq_ofList?] at hjoined
    exact (Packed.ofList?_eq_some.mp hjoined).symm
  rw [at?_eq_bind_ofList?, hslots, edit?_append, t.length_toList]
  split
  · rw [at?_eq_bind_ofList?, Option.bind_assoc, Option.bind_map]
    refine Option.bind_congr fun edited _ => ?_
    rw [Function.comp_apply, ← Packed.ofList?_append, other.ofList?_toList]
    rfl
  · rw [at?_eq_bind_ofList?, Option.bind_assoc, Option.bind_map]
    refine Option.bind_congr fun edited _ => ?_
    rw [Function.comp_apply, ← Packed.ofList?_append, t.ofList?_toList, Option.bind_some]

/-- A slot that is dropped takes what was written to it along. -/
theorem at?_set_erase (number : Nat) (value : α) (t : Packed α) :
    ((set value).at? number t).bind (erase.at? number) = erase.at? number t := by
  apply Packed.eq_of_map_toList
  rw [map_toList_bind (erase.map_toList_at? number), map_toList_at?, map_toList_at?]
  by_cases hrange : 0 < number ∧ number ≤ t.toList.length
  · have hwritten : 0 < number ∧ number ≤ ((set value).edit (number - 1) t.toList).length := by
      rwa [edit_set, List.length_set]
    rw [edit?_of_range _ hrange, Option.bind_some, edit?_of_range _ hwritten,
      edit?_of_range _ hrange, edit_set, edit_erase, edit_erase, List.eraseIdx_set_eq]
  · rw [edit?_eq_none _ hrange, edit?_eq_none _ hrange, Option.bind_none]

/-- Growth at the front makes room for a slot number one. -/
theorem at?_of_pushFront? (c : SlotChange α) {number : Nat} (hnumber : 0 < number)
    {t u : Packed α} {value : α} (hgrown : t.pushFront? value = some u) :
    c.at? (number + 1) u = (c.at? number t).bind fun u => u.pushFront? value := by
  rw [Packed.pushFront?_eq_join?] at hgrown
  have hone : (Packed.single value).arity = 1 := rfl
  rw [c.at?_of_join? (number + 1) hgrown, if_neg (by omega), hone, Nat.add_sub_cancel]
  exact Option.bind_congr fun u _ => (u.pushFront?_eq_join? value).symm

theorem at?_of_pushBack? (c : SlotChange α) {number : Nat} {t u : Packed α} {value : α}
    (hnumber : number ≤ t.arity) (hgrown : t.pushBack? value = some u) :
    c.at? number u = (c.at? number t).bind fun u => u.pushBack? value := by
  rw [Packed.pushBack?_eq_join?] at hgrown
  rw [c.at?_of_join? number hgrown, if_pos hnumber]
  exact Option.bind_congr fun u _ => (u.pushBack?_eq_join? value).symm

end SlotChange

namespace Packed

variable {α : Type u} {t u : Packed α} {value : α}

theorem erase?_of_pushFront? (hgrown : t.pushFront? value = some u) : u.erase? 1 = some t := by
  rw [pushFront?_eq_join?] at hgrown
  have herase := SlotChange.erase.at?_of_join? 1 hgrown
  rw [if_pos (show 1 ≤ (single value).arity from Nat.le_refl 1)] at herase
  exact herase.trans t.unit_join?

theorem erase?_of_pushBack? (hgrown : t.pushBack? value = some u) :
    u.erase? (t.arity + 1) = some t := by
  rw [pushBack?_eq_join?] at hgrown
  have herase := SlotChange.erase.at?_of_join? (t.arity + 1) hgrown
  rw [if_neg (by omega), Nat.add_sub_cancel_left] at herase
  exact herase.trans t.join?_unit

theorem exists_join? {other : Packed α} (hroom : t.arity + other.arity ≤ maxArity) :
    ∃ joined, t.join? other = some joined :=
  ⟨_, dif_pos (Nat.add_comm t.arity _ ▸ hroom)⟩

end Packed

namespace SlotChange

/-- The change of a session that an operation on the slot with a number is. -/
def change (number : Nat) : SlotChange Value → Change
  | set value => .set number value
  | modify f => .modify number f
  | erase => .erase number

theorem value_perform_change (number : Nat) (c : SlotChange Value) (t : Packed Value) :
    ((c.change number).perform t).value = Change.exists? (c.at? number t) := by
  cases c with
  | set value => rfl
  | erase => rfl
  | modify f =>
    cases hslot : t.slot? number with
    | none => simp [change, at?, Change.perform, Packed.modify?, hslot, Change.exists?]
    | some k =>
      simp [change, at?, Change.perform, Packed.modify?, hslot, Change.exists?,
        Change.modifyM_watch, Tuple.set_get_eq_modify]

/-- The slot with a number is read and written as one place. Of operations on two
    slots either can come first, if the later slot is given the number that it has
    after the other. A tuple that has grown by a value is the old one behind or in
    front of it, and a joined tuple has the slots of the first tuple and then those
    of the second. In a session the same operations are done. -/
theorem slot_changes_follow_shifts :
    (∀ {α : Type u} (t : Packed α),
      (∀ number,
        t.SlotLens number ∧
        (∀ value, ((t.set? number value).bind fun u => u.erase? number) = t.erase? number) ∧
        ∀ c : SlotChange α, (c.at? number t).isSome = true ↔ 0 < number ∧ number ≤ t.arity) ∧
      (∀ (c d : SlotChange α) (j k : Nat), j < k →
        (c.at? k t).bind (d.at? j) = (d.at? j t).bind (c.at? (k - d.lost))) ∧
      (∀ value, t.arity < maxArity →
        (∃ u, t.pushFront? value = some u ∧ u.erase? 1 = some t ∧
          ∀ (c : SlotChange α) (number : Nat), 0 < number →
            c.at? (number + 1) u = (c.at? number t).bind fun v => v.pushFront? value) ∧
        ∃ u, t.pushBack? value = some u ∧ u.erase? (t.arity + 1) = some t ∧
          ∀ (c : SlotChange α) (number : Nat), number ≤ t.arity →
            c.at? number u = (c.at? number t).bind fun v => v.pushBack? value) ∧
      ∀ other : Packed α, t.arity + other.arity ≤ maxArity →
        ∃ joined, t.join? other = some joined ∧
          ∀ (c : SlotChange α) (number : Nat),
            c.at? number joined =
              if number ≤ t.arity then (c.at? number t).bind fun u => u.join? other
              else (c.at? (number - t.arity) other).bind t.join?) ∧
    ∀ (t : Packed Value) (number : Nat) (c : SlotChange Value),
      ((c.change number).perform t).value = Change.exists? (c.at? number t) := by
  refine ⟨?_, fun t number c => c.value_perform_change number t⟩
  intro α t
  refine ⟨?slot, fun c d j k hjk => c.at?_at? d hjk t, ?grown, ?joined⟩
  case slot =>
    intro number
    exact ⟨t.slotLens number, fun value => at?_set_erase number value t,
      fun c => c.isSome_at?_iff number t⟩
  case grown =>
    intro value hroom
    constructor
    · obtain ⟨u, hgrown⟩ : ∃ u, t.pushFront? value = some u := ⟨_, dif_pos hroom⟩
      exact ⟨u, hgrown, Packed.erase?_of_pushFront? hgrown,
        fun c number hnumber => c.at?_of_pushFront? hnumber hgrown⟩
    · obtain ⟨u, hgrown⟩ : ∃ u, t.pushBack? value = some u := ⟨_, dif_pos hroom⟩
      exact ⟨u, hgrown, Packed.erase?_of_pushBack? hgrown,
        fun c number hnumber => c.at?_of_pushBack? hnumber hgrown⟩
  case joined =>
    intro other hroom
    obtain ⟨joined, hjoined⟩ := Packed.exists_join? hroom
    exact ⟨joined, hjoined, fun c number => c.at?_of_join? number hjoined⟩

/-- Of three slots the first and the last are dropped, in either order. The second
    one is the same after a write to the first. A fourth slot fits on either side, and
    the first of the three is dropped from the grown tuples as it was before. If the
    fourth slot is dropped again, the three are left. -/
theorem slot_changes_follow_shifts_first_and_last :
    let t : Packed Nat := ⟨3, .cons 10 (.cons 20 (.cons 30 .nil)), by decide⟩
    (2 ≠ 1 ∧ ((t.set? 1 50).bind fun u => u.get? 2) = some 20) ∧
    (1 < 3 ∧ (erase.at? 1 t).bind (erase.at? 2) = some (.single 20) ∧
      (erase.at? 3 t).bind (erase.at? 1) = some (.single 20)) ∧
    (t.arity < maxArity ∧
      (∃ u, t.pushFront? 5 = some u ∧ 0 < 1 ∧
        erase.at? 2 u = (erase.at? 1 t).bind fun v => v.pushFront? 5) ∧
      ∃ u, t.pushBack? 40 = some u ∧ 1 ≤ t.arity ∧
        erase.at? 1 u = (erase.at? 1 t).bind fun v => v.pushBack? 40) ∧
    t.arity + (Packed.single 40).arity ≤ maxArity ∧
      ∃ joined, t.join? (.single 40) = some joined ∧ erase.at? 4 joined = some t := by
  intro t
  obtain ⟨hslot, hshift, hgrown, hjoined⟩ := slot_changes_follow_shifts.1 t
  refine ⟨⟨by decide, ?_⟩, ⟨by decide, rfl, ?_⟩, ⟨by decide, ?_⟩, by decide, ?_⟩
  · exact (hslot 1).1.get_set_other 50 2 (by decide)
  · exact hshift erase erase 1 3 (by decide)
  · constructor
    · obtain ⟨u, hu, -, hnext⟩ := (hgrown 5 (by decide)).1
      exact ⟨u, hu, by decide, hnext erase 1 (by decide)⟩
    · obtain ⟨u, hu, -, hsame⟩ := (hgrown 40 (by decide)).2
      exact ⟨u, hu, by decide, hsame erase 1 (by decide)⟩
  · obtain ⟨joined, hfour, hpart⟩ := hjoined (.single 40) (by decide)
    exact ⟨joined, hfour, hpart erase 4⟩

end SlotChange

end Polyad
