import Mathlib.Data.List.ReduceOption
import Polyad.Proofs.Session.Twins
/-!
Sessions on plain lists. A change is described once more as an operation on
the list of slots, with the condition under which it takes effect, and a
session on a tuple is shown to go through the same lists.
-/

namespace Polyad

namespace Change

/-- When a change takes effect on a tuple with these slots. -/
def Applies (slots : List Value) : Change → Prop
  | set number _ | erase number | modify number _ => 0 < number ∧ number ≤ slots.length
  | tryModify number f => (0 < number ∧ number ≤ slots.length) ∧ f.isSome
  | mapEach fs => fs.length = slots.length
  | tryMapEach fs => fs.length = slots.length ∧ ∀ f ∈ fs, f.isSome
  | rebuild f => (f slots.length).isSome
  | tryRebuild f => ∃ g ∈ f, (g slots.length).isSome
  | pushFront _ | pushBack _ => slots.length < maxArity
  | append _ => slots.length < appendLimit
  | join other => slots.length + other.toList.length ≤ maxArity
  | @pad m _ => slots.length + m ≤ maxArity
  | swap => slots.length = 2

instance (slots : List Value) : (c : Change) → Decidable (c.Applies slots)
  | set number _ | erase number | modify number _ =>
    inferInstanceAs (Decidable (0 < number ∧ number ≤ slots.length))
  | tryModify number f =>
    inferInstanceAs (Decidable ((0 < number ∧ number ≤ slots.length) ∧ f.isSome))
  | mapEach fs => inferInstanceAs (Decidable (fs.length = slots.length))
  | tryMapEach fs =>
    inferInstanceAs (Decidable (fs.length = slots.length ∧ ∀ f ∈ fs, f.isSome))
  | rebuild f => inferInstanceAs (Decidable ((f slots.length).isSome = true))
  | tryRebuild f => inferInstanceAs (Decidable (∃ g ∈ f, (g slots.length).isSome))
  | pushFront _ | pushBack _ => inferInstanceAs (Decidable (slots.length < maxArity))
  | append _ => inferInstanceAs (Decidable (slots.length < appendLimit))
  | join other => inferInstanceAs (Decidable (slots.length + other.toList.length ≤ maxArity))
  | @pad m _ => inferInstanceAs (Decidable (slots.length + m ≤ maxArity))
  | swap => inferInstanceAs (Decidable (slots.length = 2))

/-- The slots that a function of the whole tuple makes of these. -/
def rebuilt (slots : List Value) (f : (n : Nat) → Option (Tuple Value n → Packed Value)) :
    List Value :=
  match f slots.length with
  | some g => (g (.ofList slots)).toList
  | none => slots

/-- What a change that takes effect makes of a list of slots. -/
def effect (slots : List Value) : Change → List Value
  | set number value => slots.set (number - 1) value
  | erase number => slots.eraseIdx (number - 1)
  | modify number f | tryModify number (some f) => slots.modify (number - 1) f
  | tryModify _ none => slots
  | mapEach fs => List.zipWith (fun f value => f value) fs slots
  | tryMapEach fs => List.zipWith (fun f value => f value) fs.reduceOption slots
  | rebuild f | tryRebuild (some f) => rebuilt slots f
  | tryRebuild none => slots
  | pushFront value => value :: slots
  | pushBack value | append value => slots ++ [value]
  | join other => slots ++ other.toList
  | pad (some other) => slots ++ other.toList.map .present
  | @pad m none => slots ++ List.replicate m .absent
  | swap => slots.reverse

/-- The slots after a change, if it takes effect. -/
def slotsAfter (t : Packed Value) (c : Change) : Option (List Value) :=
  (c.perform t).value.toOption.map Packed.toList

/-- The slots after a change by its description on lists. -/
def listAfter (slots : List Value) (c : Change) : Option (List Value) :=
  if c.Applies slots then some (c.effect slots) else none

theorem slotsAfter_of_exists? {t : Packed Value} {c : Change} {result : Option (Packed Value)}
    (hperform : c.perform t = pure (exists? result)) :
    c.slotsAfter t = result.map Packed.toList := by
  cases result <;> simp [slotsAfter, hperform, exists?, Except.toOption]

theorem slotsAfter_of_refused {t : Packed Value} {c : Change} (refusal : Refusal)
    (hperform : c.perform t = pure (.error refusal)) : c.slotsAfter t = none := by
  simp [slotsAfter, hperform, Except.toOption]

variable (t : Packed Value)

theorem slotsAfter_modify (number : Nat) (f : Value → Value) :
    (modify number f).slotsAfter t = (modify number f).listAfter t.toList := by
  have hlength := t.length_toList
  cases hslot : t.slot? number with
  | none =>
    have hnumber := Tuple.slot?_eq_none.mp hslot
    rw [listAfter, if_neg (by simpa only [Applies, hlength] using hnumber)]
    exact slotsAfter_of_refused .absent (by simp only [perform, hslot])
  | some k =>
    obtain rfl : number = k.val + 1 := Tuple.slot?_eq_some.mp hslot
    have hk := k.isLt
    rw [listAfter, if_pos (by simp only [Applies, hlength]; omega)]
    simp only [slotsAfter, perform, hslot, modifyM_watch, Tuple.set_get_eq_modify, effect]
    rw [Packed.toList, Nat.add_sub_cancel, ← Tuple.toList_modify]
    rfl

theorem slotsAfter_mapEach (fs : List (Value → Value)) :
    (mapEach fs).slotsAfter t = (mapEach fs).listAfter t.toList := by
  have hlength := t.length_toList
  cases htuple : Tuple.ofList? t.arity fs with
  | none =>
    have harity := Tuple.ofList?_eq_none.mp htuple
    rw [listAfter, if_neg (by simpa only [Applies, hlength] using harity)]
    exact slotsAfter_of_refused .absent (by simp only [perform, htuple])
  | some gs =>
    obtain rfl : fs = gs.toList := Tuple.ofList?_eq_some.mp htuple
    rw [listAfter, if_pos (by simp only [Applies, hlength, Tuple.length_toList])]
    simp only [slotsAfter, perform, htuple, mapEachM_watchEach, effect]
    rw [Packed.toList, ← Tuple.toList_mapEach]
    rfl

theorem slotsAfter_rebuild (f : (n : Nat) → Option (Tuple Value n → Packed Value)) :
    (rebuild f).slotsAfter t = (rebuild f).listAfter t.toList := by
  have hsame : (f t.toList.length).map (fun g => g (.ofList t.toList)) =
      (f t.arity).map fun g => g t.slots := Tuple.map_ofList f t.slots
  cases hf : f t.arity with
  | none =>
    have hlist : f t.toList.length = none := by simpa [hf] using hsame
    rw [listAfter, if_neg (by simp [Applies, hlist])]
    exact slotsAfter_of_refused .absent (by simp only [perform, hf])
  | some g =>
    rw [hf, Option.map_some, Option.map_eq_some_iff] at hsame
    obtain ⟨h, hlist, hresult⟩ := hsame
    rw [listAfter, if_pos (by simp [Applies, hlist])]
    simp only [slotsAfter, perform, hf, apply_watchWhole, effect, rebuilt, hlist, hresult]
    rfl

/-- A change takes effect on a tuple exactly when it does on the list of its
    slots, and with the same slots as a result. -/
theorem slotsAfter_eq_listAfter (c : Change) : c.slotsAfter t = c.listAfter t.toList := by
  have hlength := t.length_toList
  cases c with
  | set number value =>
    rw [slotsAfter_of_exists? rfl, Packed.map_toList_set?]
    simp only [listAfter, Applies, effect, hlength]
  | erase number =>
    rw [slotsAfter_of_exists? rfl, Packed.map_toList_erase?]
    simp only [listAfter, Applies, effect, hlength]
  | modify number f => exact slotsAfter_modify t number f
  | tryModify number f =>
    cases f with
    | some f =>
      rw [slotsAfter, perform_tryModify_some, ← slotsAfter, slotsAfter_modify]
      simp [listAfter, Applies, effect]
    | none =>
      have hrefused : (tryModify number none).slotsAfter t = none := by
        rw [slotsAfter, perform_tryModify_none]
        split <;> rfl
      rw [hrefused]
      simp [listAfter, Applies]
  | mapEach fs => exact slotsAfter_mapEach t fs
  | tryMapEach fs =>
    obtain ⟨gs, rfl⟩ | ⟨j, hmissing, hbefore⟩ := Tuple.list_present_or_first_missing fs
    · rw [slotsAfter, perform_tryMapEach_map_some, ← slotsAfter, slotsAfter_mapEach]
      simp [listAfter, Applies, effect, List.reduceOption]
    · have hnone : none ∈ fs := List.mem_of_getElem? hmissing
      obtain ⟨refusal, hperform⟩ := perform_tryMapEach_refused t hmissing hbefore
      rw [slotsAfter_of_refused refusal hperform, listAfter, if_neg]
      rintro ⟨-, hall⟩
      exact absurd (hall none hnone) (by simp)
  | rebuild f => exact slotsAfter_rebuild t f
  | tryRebuild f =>
    cases f with
    | some f =>
      rw [slotsAfter, perform_tryRebuild_some, ← slotsAfter, slotsAfter_rebuild]
      by_cases hexists : (f t.toList.length).isSome <;>
        simp [listAfter, Applies, effect, hexists]
    | none =>
      rw [slotsAfter_of_refused _ (perform_tryRebuild_none t)]
      simp [listAfter, Applies]
  | pushFront value =>
    rw [slotsAfter_of_exists? rfl, Packed.map_toList_pushFront?]
    simp only [listAfter, Applies, effect, hlength, Nat.lt_iff_add_one_le]
  | pushBack value =>
    rw [slotsAfter_of_exists? rfl, Packed.map_toList_pushBack?]
    simp only [listAfter, Applies, effect, hlength, Nat.lt_iff_add_one_le]
  | append value =>
    by_cases hroom : t.arity < appendLimit
    · obtain ⟨hfits, hnext⟩ := Packed.append_eq_ok hroom value
      rw [listAfter, if_pos (by simpa only [Applies, hlength] using hroom)]
      simp [slotsAfter, perform, hnext, permitted, Except.toOption, effect, Packed.toList]
    · have hfull := Packed.append_eq_error (Nat.le_of_not_lt hroom) value
      rw [listAfter, if_neg (by simpa only [Applies, hlength] using hroom)]
      simp [slotsAfter, perform, hfull, permitted, Except.toOption]
  | join other =>
    rw [slotsAfter_of_exists? rfl, Packed.map_toList_join?]
    simp only [listAfter, Applies, effect, hlength, other.length_toList, Nat.add_comm]
  | @pad m other =>
    rw [slotsAfter_of_exists? rfl, Packed.map_toList_pad?]
    cases other with
    | some other =>
      simp only [listAfter, Applies, effect, hlength, Tuple.toList_padding_some, Nat.add_comm]
      rfl
    | none =>
      simp only [listAfter, Applies, effect, hlength, Tuple.toList_padding_none, Nat.add_comm]
      rfl
  | swap =>
    rw [slotsAfter_of_exists? rfl, Packed.map_toList_swap?]
    simp only [listAfter, Applies, effect, hlength]

end Change

namespace Step

/-- What a step makes of a list of slots. A change that does not take effect
    and a look leave it as it is. -/
def onList (slots : List Value) : Step → List Value
  | change c => if c.Applies slots then c.effect slots else slots
  | look _ => slots

theorem change_perform_eq_ok {t next : Packed Value} {c : Change} :
    (Step.perform t (.change c)).value = .ok (.changed next) ↔ (c.perform t).value = .ok next := by
  simp only [perform, Traced.value_map]
  cases (c.perform t).value <;> simp [Except.map]

theorem toList_next (t : Packed Value) (step : Step) :
    (step.next t).toList = step.onList t.toList := by
  cases step with
  | change c =>
    have hslots := c.slotsAfter_eq_listAfter t
    simp only [Change.slotsAfter, Change.listAfter] at hslots
    simp only [next, onList, perform, Traced.value_map]
    cases hvalue : (c.perform t).value with
    | ok after =>
      rw [hvalue] at hslots
      by_cases happlies : c.Applies t.toList
      · rw [if_pos happlies] at hslots ⊢
        exact Option.some.inj hslots
      · rw [if_neg happlies] at hslots
        cases hslots
    | error refusal =>
      rw [hvalue] at hslots
      by_cases happlies : c.Applies t.toList
      · rw [if_pos happlies] at hslots
        cases hslots
      · rw [if_neg happlies]
        rfl
  | look l =>
    simp only [next, onList, perform, Traced.value_map]
    cases (l.perform t).value <;> rfl

theorem final_run (t : Packed Value) (steps : List Step) :
    (run t steps).2 = steps.foldl next t := by
  induction steps generalizing t with
  | nil => rfl
  | cons step rest ih => exact ih (step.next t)

/-- Each reply is the answer of its step on the tuple that the steps before it
    lead to. -/
theorem getElem?_replies_run (t : Packed Value) (steps : List Step) (i : Nat) :
    (run t steps).1[i]? = steps[i]?.map (perform (run t (steps.take i)).2) := by
  induction steps generalizing t i with
  | nil => rfl
  | cons step rest ih =>
    cases i with
    | zero => rfl
    | succ i => exact ih (step.next t) i

theorem toList_final_run (t : Packed Value) (steps : List Step) :
    (run t steps).2.toList = steps.foldl onList t.toList := by
  rw [final_run]
  induction steps generalizing t with
  | nil => rfl
  | cons step rest ih =>
    rw [List.foldl_cons, List.foldl_cons, ih (step.next t), toList_next]

/-- After every step of a run, reading the slots by their numbers gives the
    list that the same steps make of the list of slots at the start. The next
    step is asked of that tuple, and a change takes effect there exactly when it
    applies to that list. -/
theorem run_reads_lists (start : Packed Value) (steps : List Step) (done : Nat) :
    let t := (run start (steps.take done)).2
    let slots := (steps.take done).foldl onList start.toList
    (t.arity = slots.length ∧ ∀ k, t.get? (k + 1) = slots[k]?) ∧
      (run start steps).1[done]? = steps[done]?.map (perform t) ∧
      ∀ c : Change,
        (∃ next, (perform t (.change c)).value = .ok (.changed next)) ↔ c.Applies slots := by
  intro t slots
  have hslots : t.toList = slots := toList_final_run start (steps.take done)
  refine ⟨⟨?_, ?_⟩, getElem?_replies_run start steps done, ?_⟩
  · rw [← hslots, t.length_toList]
  · intro k
    rw [← hslots, t.get?_succ]
  · intro c
    have hafter := c.slotsAfter_eq_listAfter t
    rw [hslots, Change.slotsAfter, Change.listAfter] at hafter
    simp only [change_perform_eq_ok]
    constructor
    · rintro ⟨next, hnext⟩
      by_contra hrefused
      rw [hnext, if_neg hrefused] at hafter
      cases hafter
    · intro happlies
      rw [if_pos happlies] at hafter
      cases hvalue : (c.perform t).value with
      | ok next => exact ⟨next, rfl⟩
      | error refusal =>
        rw [hvalue] at hafter
        cases hafter

end Step

end Polyad
