import Polyad.Proofs.Session.Calls
/-!
Checked twins of operations. When every function is there a twin does what its
plain operation does, calls included; when one is missing it calls none of them
and names the first.
-/

namespace Polyad

namespace Tuple

universe u

variable {α β : Type u}

theorem ofList?_map (f : α → β) (n : Nat) (values : List α) :
    ofList? n (values.map f) = (ofList? n values).map (Tuple.map f) := by
  induction n generalizing values with
  | zero => cases values <;> rfl
  | succ n ih =>
    cases values with
    | nil => rfl
    | cons value rest =>
      simp only [List.map_cons, ofList?, ih, Option.map_map]
      rfl

theorem ofList?_eq_none {n : Nat} {values : List α} :
    ofList? n values = none ↔ values.length ≠ n := by
  constructor
  · intro hnone hlength
    subst hlength
    have hsome := ofList?_eq_some.mpr (toList_ofList values).symm
    rw [hnone] at hsome
    cases hsome
  · intro hlength
    cases htuple : ofList? n values with
    | none => rfl
    | some t =>
      have hlist := ofList?_eq_some.mp htuple
      exact absurd (hlist ▸ t.length_toList) hlength

end Tuple

namespace Change

variable (t : Packed Value)

theorem perform_tryModify_some (number : Nat) (f : Value → Value) :
    perform t (.tryModify number (some f)) = perform t (.modify number f) := by
  simp only [perform]
  cases t.slot? number with
  | none => rfl
  | some k => simp [Tuple.tryModifyM_some, permitted, Except.map]

/-- A missing function is noticed only where there is a slot for it. -/
theorem perform_tryModify_none (number : Nat) :
    perform t (.tryModify number none) =
      if 0 < number ∧ number ≤ t.arity then
        pure (.error (.fault (.missing ("map" ++ toString number) "f")))
      else pure (.error .absent) := by
  simp only [perform]
  cases hslot : t.slot? number with
  | none => rw [if_neg (Tuple.slot?_eq_none.mp hslot)]
  | some k =>
    obtain rfl : number = k.val + 1 := Tuple.slot?_eq_some.mp hslot
    have hk := k.isLt
    rw [if_pos (by omega)]
    rfl

/-- Every function is called once, on its own slot, and in the order of the
    slots. -/
theorem perform_mapEach (gs : Tuple (Value → Value) t.arity) :
    perform t (.mapEach gs.toList) =
      ⟨.ok { t with slots := Tuple.mapEach gs t.slots },
        (t.toList.zipIdx 1).map fun slot => .slot slot.2 slot.1⟩ := by
  have htuple : Tuple.ofList? t.arity gs.toList = some gs := Tuple.ofList?_eq_some.mpr rfl
  simp only [perform, htuple, mapEachM_watchEach, Tuple.numbered_eq_zipIdx, List.map_map]
  exact congrArg (Traced.mk _) (List.append_nil _)

theorem perform_tryMapEach_map_some (gs : List (Value → Value)) :
    perform t (.tryMapEach (gs.map some)) = perform t (.mapEach gs) := by
  simp only [perform]
  rw [Tuple.ofList?_map]
  cases Tuple.ofList? t.arity gs with
  | none => rfl
  | some gs =>
    simp [watchEach?_map_some, Tuple.tryMapEachM_map_some, permitted, Except.map]

/-- The function that is named stands at the first place without one. -/
theorem perform_tryMapEach_of_first_missing {fs : List (Option (Value → Value))} {j : Nat}
    (harity : fs.length = t.arity) (hmissing : fs[j]? = some none)
    (hbefore : ∀ i < j, ∃ f, fs[i]? = some (some f)) :
    perform t (.tryMapEach fs) =
      pure (.error (.fault (.missing "map_each" ("f" ++ toString (j + 1))))) := by
  simp only [perform]
  cases htuple : Tuple.ofList? t.arity fs with
  | none => exact absurd harity (Tuple.ofList?_eq_none.mp htuple)
  | some tuple =>
    obtain rfl : fs = tuple.toList := Tuple.ofList?_eq_some.mp htuple
    have hj : j < t.arity := by
      obtain ⟨hj, _⟩ := List.getElem?_eq_some_iff.mp hmissing
      simpa using hj
    have hget (i : Nat) (hi : i < t.arity) (f : Option (Value → Value))
        (hf : tuple.toList[i]? = some f) : tuple.get ⟨i, hi⟩ = f := by
      rw [tuple.getElem?_toList ⟨i, hi⟩] at hf
      exact Option.some.inj hf
    have hfirst : (watchEach? 1 tuple).get ⟨j, hj⟩ = none := by
      rw [get_watchEach?, hget j hj none hmissing]
      rfl
    have hpresent : ∀ i < (⟨j, hj⟩ : Fin t.arity), ((watchEach? 1 tuple).get i).isSome := by
      intro i hi
      obtain ⟨f, hf⟩ := hbefore i.val hi
      rw [get_watchEach?, hget i.val i.isLt (some f) hf]
      rfl
    have hfault := Tuple.tryMapEachM_of_first_missing hfirst hpresent t.slots
    simp only [hfault]
    rfl

theorem perform_tryMapEach_refused {fs : List (Option (Value → Value))} {j : Nat}
    (hmissing : fs[j]? = some none) (hbefore : ∀ i < j, ∃ f, fs[i]? = some (some f)) :
    ∃ refusal, perform t (.tryMapEach fs) = pure (.error refusal) := by
  by_cases harity : fs.length = t.arity
  · exact ⟨_, perform_tryMapEach_of_first_missing t harity hmissing hbefore⟩
  · have htuple := Tuple.ofList?_eq_none.mpr harity
    exact ⟨.absent, by simp only [perform, htuple]⟩

theorem perform_tryRebuild_some (f : (n : Nat) → Option (Tuple Value n → Packed Value)) :
    perform t (.tryRebuild (some f)) = perform t (.rebuild f) := by
  simp only [perform]
  cases f t.arity with
  | none => rfl
  | some g => simp [Tuple.tryApplyM_some, permitted]

theorem perform_tryRebuild_none :
    perform t (.tryRebuild none) = pure (.error (.fault (.missing "map" "f"))) := rfl

end Change

namespace Look

variable (t : Packed Value)

theorem perform_tryApply_some (f : List Value → Value) :
    perform t (.tryApply (some f)) = perform t (.apply f) := by
  simp only [perform]
  simp [Tuple.tryApplyM_some, Change.permitted, Except.map]

theorem perform_tryApply_none :
    perform t (.tryApply none) = pure (.error (.fault (.missing "apply" "f"))) := rfl

end Look

namespace Step

/-- Whether a step is the checked twin of another operation. -/
def isChecked : Step → Bool
  | change (.tryModify ..) | change (.tryMapEach _) | change (.tryRebuild _) => true
  | look (.tryApply _) => true
  | _ => false

/-- The plain operation in place of a checked one whose functions are there. -/
def plain : Step → Step
  | change (.tryModify number (some f)) => change (.modify number f)
  | change (.tryMapEach fs) => change (.mapEach (fs.filterMap id))
  | change (.tryRebuild (some f)) => change (.rebuild f)
  | look (.tryApply (some f)) => look (.apply f)
  | step => step

/-- Whether a step that got a reply is more than a checked one that failed. -/
def stays (step : Step) (reply : Reply) : Bool :=
  !step.isChecked || reply.value.isOk

/-- The steps of a run without the checked ones: those that fail are left out
    and the others give way to their plain operations. -/
def unchecked (t : Packed Value) : List Step → List Step
  | [] => []
  | step :: rest =>
    if step.stays (step.perform t) then step.plain :: unchecked (step.next t) rest
    else unchecked (step.next t) rest

theorem next_of_not_stays {t : Packed Value} {step : Step}
    (hfails : step.stays (step.perform t) = false) : step.next t = t := by
  simp only [stays, Bool.or_eq_false_iff] at hfails
  unfold next
  cases hvalue : (step.perform t).value with
  | ok outcome => simp [hvalue, Except.isOk, Except.toBool] at hfails
  | error refusal => rfl

theorem not_stays_of_refused {t : Packed Value} {c : Change} {refusal : Refusal}
    (hchecked : (Step.change c).isChecked = true)
    (hrefused : c.perform t = pure (.error refusal)) :
    (Step.change c).stays (perform t (.change c)) = false := by
  simp only [stays, hchecked, perform, hrefused]
  rfl

/-- Where a checked step does not fail, its plain operation gives the same
    answer after the same calls. -/
theorem perform_plain {t : Packed Value} {step : Step}
    (hstays : step.stays (step.perform t) = true) :
    step.plain.isChecked = false ∧ step.plain.perform t = step.perform t := by
  have hchange {c d : Change} (hsame : c.perform t = d.perform t) :
      perform t (.change d) = perform t (.change c) := by
    simp only [perform, hsame]
  cases step with
  | look l =>
    cases l with
    | tryApply f =>
      cases f with
      | some f => exact ⟨rfl, by simp only [plain, perform, Look.perform_tryApply_some]⟩
      | none => cases hstays
    | _ => exact ⟨rfl, rfl⟩
  | change c =>
    cases c with
    | tryModify number f =>
      cases f with
      | some f => exact ⟨rfl, hchange (Change.perform_tryModify_some t number f)⟩
      | none =>
        have hrefused := Change.perform_tryModify_none t number
        rw [← apply_ite pure, ← apply_ite Except.error] at hrefused
        rw [not_stays_of_refused rfl hrefused] at hstays
        cases hstays
    | tryRebuild f =>
      cases f with
      | some f => exact ⟨rfl, hchange (Change.perform_tryRebuild_some t f)⟩
      | none => cases hstays
    | tryMapEach fs =>
      obtain ⟨gs, rfl⟩ | ⟨j, hmissing, hbefore⟩ := Tuple.list_present_or_first_missing fs
      · have hpresent : (gs.map some).filterMap id = gs := by simp
        rw [plain, hpresent]
        exact ⟨rfl, hchange (Change.perform_tryMapEach_map_some t gs)⟩
      · obtain ⟨refusal, hrefused⟩ := Change.perform_tryMapEach_refused t hmissing hbefore
        rw [not_stays_of_refused rfl hrefused] at hstays
        cases hstays
    | _ => exact ⟨rfl, rfl⟩

/-- The replies that are left when those of failing checked steps are dropped. -/
def keptReplies (steps : List Step) (replies : List Reply) : List Reply :=
  ((steps.zip replies).filter fun asked => asked.1.stays asked.2).map Prod.snd

/-- A run without its checked steps answers the same and ends with the same
    tuple. -/
theorem run_unchecked (t : Packed Value) (steps : List Step) :
    run t (unchecked t steps) = (keptReplies steps (run t steps).1, (run t steps).2) := by
  induction steps generalizing t with
  | nil => rfl
  | cons step rest ih =>
    cases hstays : step.stays (step.perform t) with
    | true =>
      obtain ⟨-, hperform⟩ := perform_plain hstays
      have hnext : step.plain.next t = step.next t := by rw [next, hperform, next]
      simp only [unchecked, hstays, if_true, run, hnext, hperform, ih (step.next t)]
      simp [keptReplies, hstays]
    | false =>
      have hnext := next_of_not_stays hstays
      simp [unchecked, hstays, run, hnext, ih t, keptReplies]

theorem not_isChecked_of_mem_unchecked {t : Packed Value} {steps : List Step} {step : Step}
    (hmem : step ∈ unchecked t steps) : step.isChecked = false := by
  induction steps generalizing t with
  | nil => cases hmem
  | cons first rest ih =>
    cases hstays : first.stays (first.perform t) with
    | true =>
      rw [unchecked, hstays, if_pos rfl, List.mem_cons] at hmem
      obtain rfl | hrest := hmem
      · exact (perform_plain hstays).1
      · exact ih hrest
    | false =>
      rw [unchecked, hstays, if_neg (by simp)] at hmem
      exact ih hmem

/-- A checked operation that has all its functions gives what the plain one
    gives, after the same calls; otherwise it calls nothing and names the
    operation and its first missing function. This holds in every monad, so for
    functions with any effects, and for every tuple of a session with the names
    of its operations. A session is therefore the same without its checked
    operations. -/
theorem checked_all_or_nothing :
    (∀ (m : Type → Type) [Monad m] (α β : Type) (n : Nat) (t : Tuple α n),
      (∀ k (f : α → m α), t.tryModifyM k (some f) = .ok <$> t.modifyM k f) ∧
      (∀ k : Fin n, t.tryModifyM (m := m) k none =
        pure (.error (.missing ("map" ++ toString (k.val + 1)) "f"))) ∧
      (∀ fs : Tuple (Option (α → m β)) n,
        (∃ gs : Tuple (α → m β) n, fs = gs.map some ∧
          Tuple.tryMapEachM fs t = .ok <$> Tuple.mapEachM gs t) ∨
        ∃ j : Fin n, fs.get j = none ∧ (∀ i < j, (fs.get i).isSome) ∧
          Tuple.tryMapEachM fs t =
            pure (.error (.missing "map_each" ("f" ++ toString (j.val + 1))))) ∧
      ∀ operation,
        (∀ f : Curried α n (m β), t.tryApplyM operation (some f) = .ok <$> t.apply f) ∧
        t.tryApplyM (m := m) (β := β) operation none =
          pure (.error (.missing operation "f"))) ∧
    (∀ t : Packed Value,
      (∀ number f, Change.perform t (.tryModify number (some f)) =
        Change.perform t (.modify number f)) ∧
      (∀ k : Fin t.arity, Change.perform t (.tryModify (k.val + 1) none) =
        pure (.error (.fault (.missing ("map" ++ toString (k.val + 1)) "f")))) ∧
      (∀ f, Change.perform t (.tryRebuild (some f)) = Change.perform t (.rebuild f)) ∧
      Change.perform t (.tryRebuild none) = pure (.error (.fault (.missing "map" "f"))) ∧
      (∀ f, Look.perform t (.tryApply (some f)) = Look.perform t (.apply f)) ∧
      Look.perform t (.tryApply none) = pure (.error (.fault (.missing "apply" "f"))) ∧
      ∀ fs : Tuple (Option (Value → Value)) t.arity,
        (∃ gs : Tuple (Value → Value) t.arity, fs = gs.map some ∧
          Change.perform t (.tryMapEach fs.toList) = Change.perform t (.mapEach gs.toList) ∧
          Change.perform t (.mapEach gs.toList) =
            ⟨.ok { t with slots := Tuple.mapEach gs t.slots },
              (t.toList.zipIdx 1).map fun slot => .slot slot.2 slot.1⟩) ∨
        ∃ j : Fin t.arity, fs.get j = none ∧ (∀ i < j, (fs.get i).isSome) ∧
          Change.perform t (.tryMapEach fs.toList) =
            pure (.error (.fault (.missing "map_each" ("f" ++ toString (j.val + 1)))))) ∧
    ∀ (t : Packed Value) (steps : List Step),
      (∀ step ∈ unchecked t steps, step.isChecked = false) ∧
      run t (unchecked t steps) = (keptReplies steps (run t steps).1, (run t steps).2) := by
  refine ⟨?_, ?_, fun t steps => ⟨fun step => not_isChecked_of_mem_unchecked, run_unchecked t steps⟩⟩
  · intro m _ α β n t
    refine ⟨t.tryModifyM_some, t.tryModifyM_none, ?_, ?_⟩
    · intro fs
      obtain ⟨gs, rfl⟩ | ⟨j, hmissing, hbefore⟩ := fs.present_or_first_missing
      · exact .inl ⟨gs, rfl, Tuple.tryMapEachM_map_some gs t⟩
      · exact .inr ⟨j, hmissing, hbefore, Tuple.tryMapEachM_of_first_missing hmissing hbefore t⟩
    · exact fun operation => ⟨t.tryApplyM_some operation, t.tryApplyM_none operation⟩
  · intro t
    refine ⟨Change.perform_tryModify_some t, ?_, Change.perform_tryRebuild_some t,
      Change.perform_tryRebuild_none t, Look.perform_tryApply_some t,
      Look.perform_tryApply_none t, ?_⟩
    · intro k
      have hk := k.isLt
      rw [Change.perform_tryModify_none, if_pos (by omega)]
    · intro fs
      obtain ⟨gs, rfl⟩ | ⟨j, hmissing, hbefore⟩ := fs.present_or_first_missing
      · refine .inl ⟨gs, rfl, ?_, Change.perform_mapEach t gs⟩
        rw [Tuple.toList_map]
        exact Change.perform_tryMapEach_map_some t gs.toList
      · refine .inr ⟨j, hmissing, hbefore, ?_⟩
        apply Change.perform_tryMapEach_of_first_missing t fs.length_toList
        · rw [fs.getElem?_toList j, hmissing]
        · intro i hi
          obtain ⟨f, hf⟩ := Option.isSome_iff_exists.mp (hbefore ⟨i, by omega⟩ hi)
          exact ⟨f, by rw [fs.getElem?_toList ⟨i, by omega⟩, hf]⟩

end Step

end Polyad
