import Mathlib.Data.List.FinRange
import Mathlib.Logic.Equiv.Defs
import Polyad.Proofs.Packed.Slots
import Polyad.Proofs.Session.Lists
/-!
Mapping every slot of a tuple. The slots can be mapped all at once or one by one, in
any order, since each function meets the slot of its own and no other. What is mapped
at once can be joined and dropped before or after.
-/

namespace Polyad

universe u

/-- Work on every argument before it is handed over. -/
def Curried.precompose {α β γ : Type u} : {n : Nat} → Tuple (α → β) n → Curried β n γ →
    Curried α n γ
  | _, .nil, result => result
  | _, .cons f fs, g => fun argument => precompose fs (g (f argument))

/-- Build nested pairs from their values. -/
def Nested.build {α : Type u} : (n : Nat) → Curried α n (Nested α n)
  | 0 => PUnit.unit
  | n + 1 => fun head => (Nested.build n).map (Prod.mk head) n

namespace Tuple

variable {α β γ : Type u} {n m : Nat}

theorem eq_of_get {s t : Tuple α n} (hslots : ∀ k, s.get k = t.get k) : s = t := by
  induction s, t using induction₂ with
  | nil => rfl
  | cons n a b s t ih => rw [show a = b from hslots 0, ih fun k => hslots k.succ]

theorem get_map (f : α → β) (t : Tuple α n) (k : Fin n) : (t.map f).get k = f (t.get k) := by
  induction t with
  | nil => exact k.elim0
  | cons head tail ih =>
    cases k using Fin.cases with
    | zero => rfl
    | succ k => exact ih k

theorem get_mapEach (fs : Tuple (α → β) n) (t : Tuple α n) (k : Fin n) :
    (mapEach fs t).get k = fs.get k (t.get k) := by
  induction fs, t using induction₂ with
  | nil => exact k.elim0
  | cons n f a fs t ih =>
    cases k using Fin.cases with
    | zero => rfl
    | succ k => exact ih k

theorem get_modify_self (t : Tuple α n) (f : α → α) (k : Fin n) :
    (t.modify k f).get k = f (t.get k) := by
  rw [← set_get_eq_modify, get_set_self]

theorem get_modify_of_ne (t : Tuple α n) (f : α → α) {k i : Fin n} (hne : i ≠ k) :
    (t.modify k f).get i = t.get i := by
  rw [← set_get_eq_modify, get_set_of_ne t hne]

/-- Transform some slots by the functions in their positions, one after another. -/
def modifyInTurn (fs : Tuple (α → α) n) (order : List (Fin n)) (t : Tuple α n) : Tuple α n :=
  order.foldl (fun u k => u.modify k (fs.get k)) t

section

variable (fs : Tuple (α → α) n) {order : List (Fin n)} (t : Tuple α n) {i : Fin n}

theorem get_modifyInTurn_of_not_mem (hi : i ∉ order) :
    (modifyInTurn fs order t).get i = t.get i := by
  induction order generalizing t with
  | nil => rfl
  | cons k order ih =>
    rw [List.mem_cons, not_or] at hi
    exact (ih (t.modify k (fs.get k)) hi.2).trans (t.get_modify_of_ne _ hi.1)

/-- A slot whose turn comes once is transformed as it was at the start. -/
theorem get_modifyInTurn_of_mem (horder : order.Nodup) (hi : i ∈ order) :
    (modifyInTurn fs order t).get i = fs.get i (t.get i) := by
  induction order generalizing t with
  | nil => cases hi
  | cons k order ih =>
    rw [List.nodup_cons] at horder
    obtain rfl | hlater := List.mem_cons.mp hi
    · exact (get_modifyInTurn_of_not_mem fs _ horder.1).trans (t.get_modify_self _ i)
    · have hne : i ≠ k := fun hsame => horder.1 (hsame ▸ hlater)
      exact (ih (t.modify k (fs.get k)) horder.2 hlater).trans
        (congrArg (fs.get i) (t.get_modify_of_ne _ hne))

theorem modifyInTurn_eq_mapEach (s : Equiv.Perm (Fin n)) :
    modifyInTurn fs ((List.finRange n).map s) t = mapEach fs t := by
  have horder : ((List.finRange n).map s).Nodup := (List.nodup_finRange n).map s.injective
  refine eq_of_get fun i => ?_
  have hi : i ∈ (List.finRange n).map s :=
    List.mem_map.mpr ⟨s.symm i, List.mem_finRange _, s.apply_symm_apply i⟩
  rw [get_modifyInTurn_of_mem fs t horder hi, get_mapEach]

end

section

variable (fs : Tuple (α → β) n) (t : Tuple α n)

/-- What has been mapped is told from what has not by the side on which it stands. -/
theorem modifyInTurn_sum (s : Equiv.Perm (Fin n)) :
    modifyInTurn (fs.map fun f => Sum.elim (fun a => Sum.inr (f a)) Sum.inr)
        ((List.finRange n).map s) (t.map Sum.inl) =
      (mapEach fs t).map (Sum.inr : β → α ⊕ β) := by
  rw [modifyInTurn_eq_mapEach]
  refine eq_of_get fun k => ?_
  rw [get_mapEach, get_map, get_map, get_map, get_mapEach, Sum.elim_inl]

theorem mapEach_replicate_id : mapEach (replicate n id) t = t :=
  eq_of_get fun k => by rw [get_mapEach, get_replicate, id]

theorem mapEach_mapEach (gs : Tuple (β → γ) n) :
    mapEach gs (mapEach fs t) = mapEach (mapEach (gs.map Function.comp) fs) t :=
  eq_of_get fun k => by simp only [get_mapEach, get_map, Function.comp_apply]

theorem mapEach_append (gs : Tuple (α → β) m) (other : Tuple α m) :
    mapEach (fs.append gs) (t.append other) = (mapEach fs t).append (mapEach gs other) := by
  induction fs, t using induction₂ with
  | nil => rfl
  | cons n f a fs t ih => exact congrArg (cons (f a)) ih

theorem apply_precompose (g : Curried β n γ) :
    t.apply (Curried.precompose fs g) = (mapEach fs t).apply g := by
  induction fs, t using induction₂ with
  | nil => rfl
  | cons n f a fs t ih => exact ih (g (f a))

end

theorem mapEach_erase (fs : Tuple (α → β) (n + 1)) (t : Tuple α (n + 1)) (k : Fin (n + 1)) :
    (mapEach fs t).erase k = mapEach (fs.erase k) (t.erase k) := by
  induction n with
  | zero =>
    obtain rfl : k = 0 := Fin.eq_zero k
    cases fs with | cons f fs => cases t with | cons a t => rfl
  | succ n ih =>
    cases fs with
    | cons f fs =>
      cases t with
      | cons a t =>
        cases k using Fin.cases with
        | zero => rfl
        | succ k => exact congrArg (cons (f a)) (ih fs t k)

theorem apply_buildNested (t : Tuple α n) : t.apply (Nested.build n) = t.toNested := by
  induction t with
  | nil => rfl
  | cons head tail ih => exact (apply_map tail _ _).trans (congrArg (Prod.mk head) ih)

/-- Every function of so many arguments is a function of the tuple of them. -/
theorem ofTuple_apply (f : Curried α n β) : Curried.ofTuple n (fun t => t.apply f) = f := by
  induction n with
  | zero => rfl
  | succ n ih => exact funext fun argument => ih (f argument)

end Tuple

/-- The tuple packed as it is, at the arities that can be packed. -/
def Packed.ofTuple? {α : Type u} (n : Nat) : Option (Tuple α n → Packed α) :=
  if hn : n ≤ maxArity then some fun slots => ⟨n, slots, hn⟩ else none

/-- The function of the whole tuple is called once, with every slot in order. -/
theorem Change.perform_rebuild (t : Packed Value)
    (f : (n : Nat) → Option (Tuple Value n → Packed Value)) :
    perform t (.rebuild f) =
      match f t.arity with
      | none => pure (.error .absent)
      | some g => ⟨.ok (g t.slots), [.whole t.toList]⟩ := by
  simp only [perform]
  cases f t.arity with
  | none => rfl
  | some g => exact congrArg (Except.ok <$> ·) (apply_watchWhole g t.slots)

/-- Only the slot with the number is handed to the function, and only it changes. -/
theorem Change.perform_modify (t : Packed Value) (k : Fin t.arity) (f : Value → Value) :
    perform t (.modify (k.val + 1) f) =
      ⟨.ok { t with slots := t.slots.modify k f }, [.slot (k.val + 1) (t.slots.get k)]⟩ := by
  have hslot : t.slot? (k.val + 1) = some k := Tuple.slot?_eq_some.mpr rfl
  simp only [perform, hslot, modifyM_watch, Tuple.set_get_eq_modify]
  rfl

theorem Look.perform_apply (t : Packed Value) (f : List Value → Value) :
    perform t (.apply f) = ⟨.ok (.value (f t.toList)), [.whole t.toList]⟩ := by
  simp only [perform, Change.apply_watchWhole]
  rfl

namespace Step

variable (t : Packed Value) (fs : Tuple (Value → Value) t.arity)

/-- The steps that transform some slots one after another. -/
def modifySteps (order : List (Fin t.arity)) : List Step :=
  order.map fun k => .change (.modify (k.val + 1) (fs.get k))

theorem next_modify (k : Fin t.arity) (f : Value → Value) :
    next t (.change (.modify (k.val + 1) f)) = { t with slots := t.slots.modify k f } := by
  simp only [next, perform, Change.perform_modify]
  rfl

theorem final_run_modifySteps (order : List (Fin t.arity)) :
    (run t (modifySteps t fs order)).2 =
      { t with slots := Tuple.modifyInTurn fs order t.slots } := by
  have hslots (slots : Tuple Value t.arity) :
      (modifySteps t fs order).foldl next { t with slots } =
        { t with slots := Tuple.modifyInTurn fs order slots } := by
    induction order generalizing slots with
    | nil => rfl
    | cons k order ih =>
      have hnext := next_modify { t with slots } k (fs.get k)
      rw [modifySteps, List.map_cons, List.foldl_cons, hnext]
      exact ih (slots.modify k (fs.get k))
  rw [final_run]
  exact hslots t.slots

theorem next_mapEach :
    next t (.change (.mapEach fs.toList)) = { t with slots := Tuple.mapEach fs t.slots } := by
  simp only [next, perform, Change.perform_mapEach]
  rfl

end Step

namespace Tuple

/-- Mapping every slot is mapping the slots one by one, in any order, also with functions
    into another type. It is the whole tuple through the function that builds a tuple of
    what comes of each slot, so it keeps identities and compositions, and it is the same
    before and after a join or the loss of a slot. A function of the whole tuple is handed
    every slot in order: to build a tuple of the slots changes nothing, and to build nested
    pairs gives the nested pairs. A session that maps one slot or all of them calls each
    function once, on its own slot, and goes on with the mapped tuple. -/
theorem mapping_goes_slot_by_slot :
    (∀ {α : Type u} {n : Nat} (fs : Tuple (α → α) n) (t : Tuple α n) (s : Equiv.Perm (Fin n)),
      modifyInTurn fs ((List.finRange n).map s) t = mapEach fs t) ∧
    (∀ {α β : Type u} {n : Nat} (fs : Tuple (α → β) n) (t : Tuple α n),
      (∀ s : Equiv.Perm (Fin n),
        modifyInTurn (fs.map fun f => Sum.elim (fun a => Sum.inr (f a)) Sum.inr)
            ((List.finRange n).map s) (t.map Sum.inl) =
          (mapEach fs t).map (Sum.inr : β → α ⊕ β)) ∧
      mapEach (replicate n id) t = t ∧
      (∀ {γ : Type u} (gs : Tuple (β → γ) n),
        mapEach gs (mapEach fs t) = mapEach (mapEach (gs.map Function.comp) fs) t) ∧
      t.apply (Curried.precompose fs (build n)) = mapEach fs t ∧
      ∀ {m : Nat} (gs : Tuple (α → β) m) (other : Tuple α m),
        mapEach (fs.append gs) (t.append other) =
          (mapEach fs t).append (mapEach gs other)) ∧
    (∀ {α β : Type u} {n : Nat} (fs : Tuple (α → β) (n + 1)) (t : Tuple α (n + 1))
        (k : Fin (n + 1)),
      (mapEach fs t).erase k = mapEach (fs.erase k) (t.erase k)) ∧
    (∀ {α : Type u} {n : Nat} (t : Tuple α n),
      (∀ {β : Type u} (f : Curried α n β), Curried.ofTuple n (fun u => u.apply f) = f) ∧
      (∀ {β : Type u} (f : List α → β),
        t.apply (Curried.ofTuple n fun u => f u.toList) = f t.toList) ∧
      t.apply (build n) = t ∧ t.apply (Nested.build n) = t.toNested) ∧
    ∀ t : Packed Value,
      (∀ fs : Tuple (Value → Value) t.arity,
        Change.perform t (.mapEach fs.toList) =
          ⟨.ok { t with slots := mapEach fs t.slots },
            (t.toList.zipIdx 1).map fun slot => .slot slot.2 slot.1⟩ ∧
        Step.next t (.change (.mapEach fs.toList)) = { t with slots := mapEach fs t.slots }) ∧
      (∀ (k : Fin t.arity) (f : Value → Value),
        Change.perform t (.modify (k.val + 1) f) =
          ⟨.ok { t with slots := t.slots.modify k f },
            [.slot (k.val + 1) (t.slots.get k)]⟩ ∧
        Step.next t (.change (.modify (k.val + 1) f)) =
          { t with slots := t.slots.modify k f }) ∧
      (∀ (fs : Tuple (Value → Value) t.arity) (s : Equiv.Perm (Fin t.arity)),
        (Step.run t (Step.modifySteps t fs ((List.finRange t.arity).map s))).2 =
          Step.next t (.change (.mapEach fs.toList))) ∧
      Change.perform t (.rebuild Packed.ofTuple?) = ⟨.ok t, [.whole t.toList]⟩ ∧
      ∀ f : List Value → Value,
        Look.perform t (.apply f) = ⟨.ok (.value (f t.toList)), [.whole t.toList]⟩ := by
  refine ⟨fun fs t s => modifyInTurn_eq_mapEach fs t s, ?maps, mapEach_erase, ?whole, ?session⟩
  case maps =>
    intro α β n fs t
    refine ⟨modifyInTurn_sum fs t, t.mapEach_replicate_id, mapEach_mapEach fs t, ?_,
      mapEach_append fs t⟩
    rw [apply_precompose, apply_build]
  case whole =>
    intro α n t
    exact ⟨ofTuple_apply, fun f => t.apply_ofTuple fun u => f u.toList, t.apply_build,
      t.apply_buildNested⟩
  case session =>
    intro t
    refine ⟨fun fs => ⟨Change.perform_mapEach t fs, Step.next_mapEach t fs⟩,
      fun k f => ⟨Change.perform_modify t k f, Step.next_modify t k f⟩, fun fs s => ?_, ?_,
      Look.perform_apply t⟩
    · rw [Step.final_run_modifySteps, modifyInTurn_eq_mapEach, Step.next_mapEach]
    · rw [Change.perform_rebuild]
      simp only [Packed.ofTuple?, dif_pos t.arity_le]

end Tuple

end Polyad
