import Polyad.Session
/-!
What the operations that take functions compute, and which calls they make.
A checked operation either behaves as its plain twin or makes no call at all.
-/

namespace Polyad

universe u

namespace Tuple

variable {α β φ ψ : Type u}

theorem set_get_eq_modify {n : Nat} (t : Tuple α n) (k : Fin n) (f : α → α) :
    t.set k (f (t.get k)) = t.modify k f := by
  induction t with
  | nil => exact k.elim0
  | cons head tail ih =>
    obtain ⟨k, hk⟩ := k
    cases k with
    | zero => rfl
    | succ k => exact congrArg (cons head) (ih ⟨k, Nat.lt_of_succ_lt_succ hk⟩)

theorem numbered_eq_zipIdx {n : Nat} (first : Nat) (t : Tuple α n) :
    t.numbered first = (t.toList.zipIdx first).map Prod.swap := by
  induction t generalizing first with
  | nil => rfl
  | cons head tail ih => simp [numbered, ih]

/-- Either every function is there, or one of them is the first that is missing. -/
theorem present_or_first_missing {n : Nat} (fs : Tuple (Option φ) n) :
    (∃ gs : Tuple φ n, fs = gs.map some) ∨
      ∃ j : Fin n, fs.get j = none ∧ ∀ i < j, (fs.get i).isSome := by
  induction fs with
  | nil => exact .inl ⟨nil, rfl⟩
  | @cons n f fs ih =>
    cases f with
    | none => exact .inr ⟨0, rfl, fun i hi => absurd hi (Fin.not_lt_zero i)⟩
    | some f =>
      obtain ⟨gs, rfl⟩ | ⟨j, hmissing, hbefore⟩ := ih
      · exact .inl ⟨cons f gs, rfl⟩
      · refine .inr ⟨j.succ, hmissing, ?_⟩
        intro i hi
        cases i using Fin.cases with
        | zero => rfl
        | succ i => exact hbefore i (Fin.succ_lt_succ_iff.mp hi)

theorem list_present_or_first_missing (fs : List (Option φ)) :
    (∃ gs : List φ, fs = gs.map some) ∨
      ∃ j : Nat, fs[j]? = some none ∧ ∀ i < j, ∃ f, fs[i]? = some (some f) := by
  have hget (k : Fin fs.length) : fs[k.val]? = some ((ofList fs).get k) := by
    simpa using (ofList fs).getElem?_toList k
  obtain ⟨gs, hgs⟩ | ⟨j, hmissing, hbefore⟩ := present_or_first_missing (ofList fs)
  · refine .inl ⟨gs.toList, ?_⟩
    rw [← toList_map, ← hgs, toList_ofList]
  · refine .inr ⟨j.val, by rw [hget j, hmissing], ?_⟩
    intro i hi
    obtain ⟨f, hf⟩ := Option.isSome_iff_exists.mp (hbefore ⟨i, by omega⟩ hi)
    exact ⟨f, by rw [hget ⟨i, by omega⟩, hf]⟩

theorem require_map_some (operation : String) {n : Nat} (first : Nat) (gs : Tuple φ n) :
    (gs.map some).require operation first = .ok gs := by
  induction gs generalizing first with
  | nil => rfl
  | cons g gs ih => simp [map, require, Fault.require, ih]

/-- The fault names the first missing function, whatever comes after it. -/
theorem require_of_first_missing (operation : String) {n : Nat} (first : Nat)
    {fs : Tuple (Option φ) n} {j : Fin n} (hmissing : fs.get j = none)
    (hbefore : ∀ i < j, (fs.get i).isSome) :
    fs.require operation first =
      .error (.missing operation ("f" ++ toString (first + j.val))) := by
  induction fs generalizing first with
  | nil => exact j.elim0
  | @cons n f fs ih =>
    cases j using Fin.cases with
    | zero =>
      obtain rfl : f = none := hmissing
      rfl
    | succ j =>
      have hhead : f.isSome := hbefore 0 (Fin.succ_pos j)
      obtain ⟨g, rfl⟩ := Option.isSome_iff_exists.mp hhead
      have hrest := ih (first + 1) (j := j) hmissing fun i hi =>
        hbefore i.succ (Fin.succ_lt_succ_iff.mpr hi)
      have hnumber : first + 1 + j.val = first + (j.val + 1) := by omega
      simp only [require, Fault.require, hrest, hnumber, Fin.val_succ]

variable {m : Type u → Type u} [Monad m]

/-- The function runs once, on the value in its slot, and nothing else has an
    effect. -/
theorem modifyM_eq_map [LawfulMonad m] {n : Nat} (t : Tuple α n) (k : Fin n) (f : α → m α) :
    t.modifyM k f = (fun value => t.set k value) <$> f (t.get k) := by
  induction t with
  | nil => exact k.elim0
  | cons head tail ih =>
    obtain ⟨k, hk⟩ := k
    cases k with
    | zero => simp [modifyM, get, set]
    | succ k => simp [modifyM, get, set, ih]

theorem tryModifyM_some {n : Nat} (t : Tuple α n) (k : Fin n) (f : α → m α) :
    t.tryModifyM k (some f) = .ok <$> t.modifyM k f := rfl

theorem tryModifyM_none {n : Nat} (t : Tuple α n) (k : Fin n) :
    t.tryModifyM (m := m) k none =
      pure (.error (.missing ("map" ++ toString (k.val + 1)) "f")) := rfl

theorem tryMapEachM_map_some {n : Nat} (gs : Tuple (α → m β) n) (t : Tuple α n) :
    tryMapEachM (gs.map some) t = .ok <$> mapEachM gs t := by
  rw [tryMapEachM, require_map_some]
  rfl

theorem tryMapEachM_of_first_missing {n : Nat} {fs : Tuple (Option (α → m β)) n} {j : Fin n}
    (hmissing : fs.get j = none) (hbefore : ∀ i < j, (fs.get i).isSome) (t : Tuple α n) :
    tryMapEachM fs t = pure (.error (.missing "map_each" ("f" ++ toString (j.val + 1)))) := by
  rw [tryMapEachM, require_of_first_missing "map_each" 1 hmissing hbefore, Nat.add_comm]
  rfl

theorem tryApplyM_some (operation : String) {n : Nat} (t : Tuple α n)
    (f : Curried α n (m β)) :
    t.tryApplyM operation (some f) = .ok <$> t.apply f := rfl

theorem tryApplyM_none (operation : String) {n : Nat} (t : Tuple α n) :
    t.tryApplyM (m := m) (β := β) operation none =
      pure (.error (.missing operation "f")) := rfl

end Tuple

namespace Change

/-- Recording functions that may be missing leaves the missing ones missing. -/
theorem watchEach?_map_some {n : Nat} (first : Nat) (gs : Tuple (Value → Value) n) :
    watchEach? first (gs.map some) = (watchEach first gs).map some := by
  induction gs generalizing first with
  | nil => rfl
  | cons g gs ih => simp [Tuple.map, watchEach?, watchEach, ih]

theorem get_watchEach? {n : Nat} (first : Nat) (fs : Tuple (Option (Value → Value)) n)
    (j : Fin n) :
    (watchEach? first fs).get j = (fs.get j).map (watch (first + j.val)) := by
  induction fs generalizing first with
  | nil => exact j.elim0
  | @cons n f fs ih =>
    cases j using Fin.cases with
    | zero => rfl
    | succ j =>
      have hnumber : first + 1 + j.val = first + (j.val + 1) := by omega
      exact (ih (first + 1) j).trans (by rw [hnumber]; rfl)

/-- The first function is called on the first slot, then the second one on the
    second slot, and so on, each of them once. -/
theorem mapEachM_watchEach {n : Nat} (first : Nat) (fs : Tuple (Value → Value) n)
    (t : Tuple Value n) :
    Tuple.mapEachM (watchEach first fs) t =
      ⟨Tuple.mapEach fs t, (t.numbered first).map fun slot => .slot slot.1 slot.2⟩ := by
  induction fs generalizing first with
  | nil => cases t; rfl
  | cons f fs ih =>
    cases t with
    | cons head tail =>
      simp only [watchEach, Tuple.mapEachM, ih, Tuple.mapEach, Tuple.numbered, List.map_cons]
      -- The last step of a sequence records nothing, and what it adds is dropped.
      have hevents (calls : List Call) :
          [Call.slot first head] ++ (calls ++ []) = .slot first head :: calls := by simp
      exact congrArg (Traced.mk _) (hevents _)

theorem apply_watchWhole {β : Type} {n : Nat} (f : Tuple Value n → β) (t : Tuple Value n) :
    t.apply (watchWhole f) = ⟨f t, [.whole t.toList]⟩ :=
  t.apply_ofTuple fun slots => Traced.record (Call.whole slots.toList) (f slots)

theorem modifyM_watch {n : Nat} (t : Tuple Value n) (k : Fin n) (number : Nat)
    (f : Value → Value) :
    t.modifyM k (watch number f) = ⟨t.set k (f (t.get k)), [.slot number (t.get k)]⟩ := by
  rw [Tuple.modifyM_eq_map]
  rfl

end Change

end Polyad
