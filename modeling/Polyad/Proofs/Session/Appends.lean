import Polyad.Session
/-!
Appending many values to a packed tuple, one after another. The values that fit
under the limit arrive, and every later one is refused and changes nothing.
-/

namespace Polyad

universe u

namespace Packed

variable {α : Type u}

/-- The tuple after appending, which is the old one if the value was refused. -/
def appendOrKeep (t : Packed α) (value : α) : Packed α :=
  match t.append value with
  | .ok next => next
  | .error _ => t

/-- The answers to appending some values one after another, and the tuple at the
    end. -/
def appendAll (t : Packed α) : List α → List (Except Fault (Packed α)) × Packed α
  | [] => ([], t)
  | value :: rest =>
    (t.append value :: (appendAll (t.appendOrKeep value) rest).1,
      (appendAll (t.appendOrKeep value) rest).2)

/-- The arities that are listed as growing are those below the limit. -/
theorem append_isOk_iff (t : Packed α) (value : α) :
    (∃ next, t.append value = .ok next) ↔ t.arity < appendLimit := by
  constructor
  · rintro ⟨next, hnext⟩
    refine Nat.lt_of_not_le fun hfull => ?_
    rw [append_eq_error hfull] at hnext
    cases hnext
  · intro hroom
    obtain ⟨hfits, hnext⟩ := append_eq_ok hroom value
    exact ⟨_, hnext⟩

theorem toList_appendOrKeep (t : Packed α) (value : α) :
    (t.appendOrKeep value).toList =
      if t.arity < appendLimit then t.toList ++ [value] else t.toList := by
  have hlist := t.map_toList_append value
  rw [appendOrKeep]
  by_cases hroom : t.arity < appendLimit
  · obtain ⟨hfits, hnext⟩ := append_eq_ok hroom value
    rw [if_pos hroom, hnext] at hlist
    rw [if_pos hroom, hnext]
    exact Except.ok.inj hlist
  · rw [if_neg hroom, append_eq_error (Nat.le_of_not_lt hroom)]

/-- A run keeps the slots there are and adds as many values as fit. -/
theorem toList_appendAll (t : Packed α) (values : List α) :
    (t.appendAll values).2.toList = t.toList ++ values.take (appendLimit - t.arity) := by
  induction values generalizing t with
  | nil => simp [appendAll]
  | cons value rest ih =>
    have hnext := t.toList_appendOrKeep value
    have harity := congrArg List.length hnext
    rw [length_toList] at harity
    rw [appendAll, ih, hnext, harity]
    by_cases hroom : t.arity < appendLimit
    · have hstep : appendLimit - t.arity = appendLimit - (t.arity + 1) + 1 := by omega
      simp only [if_pos hroom, List.length_append, length_toList, List.length_singleton, hstep,
        List.take_succ_cons, List.append_assoc, List.singleton_append]
    · have hnone : appendLimit - t.arity = 0 := by omega
      simp only [if_neg hroom, length_toList, hnone, List.take_zero]

theorem arity_appendAll (t : Packed α) (values : List α) :
    (t.appendAll values).2.arity = t.arity + min (appendLimit - t.arity) values.length := by
  have hlength := congrArg List.length (t.toList_appendAll values)
  simpa using hlength

/-- Each answer is that to its own value on the tuple that the values before it
    lead to. -/
theorem getElem?_appendAll (t : Packed α) (values : List α) (i : Nat) :
    (t.appendAll values).1[i]? = values[i]?.map (t.appendAll (values.take i)).2.append := by
  induction values generalizing t i with
  | nil => rfl
  | cons value rest ih =>
    cases i with
    | zero => rfl
    | succ i => exact ih (t.appendOrKeep value) i

end Packed

namespace Step

theorem run_append (t : Packed Value) (values : List Value) :
    run t (values.map fun value => .change (.append value)) =
      ((t.appendAll values).1.map fun answer =>
        pure ((Change.permitted answer).map .changed), (t.appendAll values).2) := by
  induction values generalizing t with
  | nil => rfl
  | cons value rest ih =>
    have hperform : perform t (.change (.append value)) =
        pure ((Change.permitted (t.append value)).map .changed) := rfl
    have hnext : next t (.change (.append value)) = t.appendOrKeep value := by
      rw [next, hperform, Packed.appendOrKeep]
      cases t.append value <;> rfl
    rw [List.map_cons, run, hnext, ih, hperform]
    rfl

end Step

namespace Packed

theorem length_appendAll (t : Packed α) (values : List α) :
    (t.appendAll values).1.length = values.length := by
  induction values generalizing t with
  | nil => rfl
  | cons value rest ih => exact congrArg (· + 1) (ih (t.appendOrKeep value))

/-- The arities at which appending is growth are those below the limit, and each of the
    others is refused with itself and the limit. So of some values that are appended one
    after another, those that fit arrive in order behind the slots there were, each as it
    does on a tuple of a known arity. All others are refused with the arity that the tuple
    has by then, and appending never leads past its limit. A session of appends runs in the
    same way. -/
theorem appends_stop_at_limit :
    (∀ (α : Type u) (t : Packed α) (value : α),
      ((∃ next, t.append value = .ok next) ↔ t.arity < appendLimit) ∧
      (t.arity < appendLimit →
        ∃ hfits, t.append value = .ok ⟨t.arity + 1, t.slots.push value, hfits⟩) ∧
      (appendLimit ≤ t.arity →
        t.append value = .error (.unsupported "append" t.arity appendLimit))) ∧
    (∀ (α : Type u) (t : Packed α) (values : List α),
      (t.appendAll values).2.toList = t.toList ++ values.take (5 - t.arity) ∧
      (t.appendAll values).1.length = values.length ∧
      (∀ i value, values[i]? = some value →
        let before := (t.appendAll (values.take i)).2
        if i < 5 - t.arity then
          ∃ hfits, (t.appendAll values).1[i]? =
            some (.ok ⟨before.arity + 1, before.slots.push value, hfits⟩)
        else
          (t.appendAll values).1[i]? =
            some (.error (.unsupported "append" (max t.arity 5) 5))) ∧
      (t.arity ≤ appendLimit → (t.appendAll values).2.arity ≤ appendLimit)) ∧
    ∀ (t : Packed Value) (values : List Value),
      Step.run t (values.map fun value => .change (.append value)) =
        ((t.appendAll values).1.map fun answer =>
          pure ((Change.permitted answer).map .changed), (t.appendAll values).2) := by
  refine ⟨?arms, ?run, Step.run_append⟩
  case arms =>
    intro α t value
    exact ⟨t.append_isOk_iff value, (append_eq_ok · value), (append_eq_error · value)⟩
  intro α t values
  refine ⟨t.toList_appendAll values, t.length_appendAll values, ?_, ?_⟩
  · intro i value hvalue before
    have hlimit : appendLimit = 5 := rfl
    have hanswer : (t.appendAll values).1[i]? = some (before.append value) := by
      rw [getElem?_appendAll, hvalue]
      rfl
    have harity : before.arity = t.arity + min (5 - t.arity) i := by
      obtain ⟨hi, -⟩ := List.getElem?_eq_some_iff.mp hvalue
      rw [t.arity_appendAll (values.take i), List.length_take_of_le (Nat.le_of_lt hi), hlimit]
    split
    · obtain ⟨hfits, hnext⟩ := append_eq_ok (t := before) (by omega) value
      exact ⟨hfits, by rw [hanswer, hnext]⟩
    · have hmax : before.arity = max t.arity 5 := by omega
      rw [hanswer, append_eq_error (by omega), hmax, hlimit]
  · intro hlimit
    rw [arity_appendAll]
    omega

end Packed

end Polyad
