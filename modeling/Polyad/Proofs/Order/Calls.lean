import Mathlib.Order.WellFounded
import Polyad.Session
import Polyad.Proofs.Order.Comparators
/-!
The calls that a comparator makes. It asks the comparison of one slot after
another until one of them finds a difference, and nothing after that. Each is
asked once, with the two values in its slot.
-/

namespace Polyad

universe u v w

section

variable {m : Type → Type v} [Monad m]

/-- One comparison, and another one only if the first finds no difference. -/
def thenM (first rest : m Ordering) : m Ordering := do
  let answer ← first
  if answer = .eq then rest else return answer

/-- Put questions one after another until one is not answered by `eq`. -/
def askInTurn (questions : List (m Ordering)) : m Ordering :=
  questions.foldr thenM (return .eq)

variable [LawfulMonad m]

theorem pure_eq_thenM (rest : m Ordering) : thenM (pure .eq) rest = rest := by
  rw [thenM, pure_bind, if_pos rfl]

theorem thenM_pure_eq (first : m Ordering) : thenM first (pure .eq) = first := by
  refine (bind_congr fun answer => ?_).trans (bind_pure first)
  by_cases hequal : answer = .eq
  · rw [if_pos hequal, hequal]
  · rw [if_neg hequal]

theorem thenM_assoc (first second third : m Ordering) :
    thenM (thenM first second) third = thenM first (thenM second third) := by
  rw [thenM, thenM, thenM, bind_assoc]
  refine bind_congr fun answer => ?_
  by_cases hequal : answer = .eq
  · rw [if_pos hequal, if_pos hequal, thenM]
  · rw [if_neg hequal, if_neg hequal, pure_bind, if_neg hequal]

end

/-- Computations that are run in turn leave their events in turn, and none has
    an influence on the ones after it. -/
theorem Traced.mapM_eq {ε β : Type u} {α : Type w} (f : α → Traced ε β) (arguments : List α) :
    arguments.mapM f =
      ⟨arguments.map fun a => (f a).value, arguments.flatMap fun a => (f a).events⟩ := by
  induction arguments with
  | nil => rfl
  | cons a rest ih =>
    rw [List.mapM_cons, ih]
    simp [bind, pure]

namespace Tuple

variable {α : Type u} {n : Nat}

section

variable {m : Type → Type v} [Monad m]

theorem comparatorM_nil :
    comparatorM (nil : Tuple (α → α → m Ordering) 0) nil nil = pure .eq := rfl

variable [LawfulMonad m]

/-- Nothing is asked once the answer is not `eq`. -/
theorem compareFromM_of_ne {answer : Ordering} (hdecided : answer ≠ .eq)
    (cmps : Tuple (α → α → m Ordering) n) (s t : Tuple α n) :
    compareFromM answer cmps s t = pure answer := by
  induction cmps, s, t using induction₃ with
  | nil => rfl
  | cons n cmp a b cmps s t ih =>
    rw [compareFromM, if_neg hdecided, pure_bind]
    exact ih

theorem comparatorM_cons (cmp : α → α → m Ordering) (cmps : Tuple (α → α → m Ordering) n)
    (a b : α) (s t : Tuple α n) :
    comparatorM (cons cmp cmps) (cons a s) (cons b t) =
      thenM (cmp a b) (comparatorM cmps s t) := by
  rw [comparatorM, compareFromM, if_pos rfl, thenM]
  refine bind_congr fun answer => ?_
  by_cases hequal : answer = .eq
  · rw [if_pos hequal, hequal, comparatorM]
  · -- The later slots are still gone through, but with an answer that is kept.
    rw [if_neg hequal]
    exact compareFromM_of_ne hequal cmps s t

/-- A comparator asks the comparisons of the slots in turn, whatever effects
    they have. -/
theorem comparatorM_eq_askInTurn (cmps : Tuple (α → α → m Ordering) n) (s t : Tuple α n) :
    comparatorM cmps s t =
      askInTurn ((List.finRange n).map fun k => cmps.get k (s.get k) (t.get k)) := by
  induction cmps, s, t using induction₃ with
  | nil => rfl
  | cons n cmp a b cmps s t ih =>
    rw [comparatorM_cons, ih, List.finRange_succ, List.map_cons, List.map_map]
    rfl

end

/-- Either no slot decides, or one of them is the first that does. -/
theorem equal_or_first_difference (cmps : Tuple (α → α → Ordering) n) (s t : Tuple α n) :
    (∀ k, column cmps k s t = .eq) ∨
      ∃ k, (∀ i < k, column cmps i s t = .eq) ∧ column cmps k s t ≠ .eq := by
  rw [or_iff_not_imp_left]
  intro hdiffer
  obtain ⟨k, hdecides, hfirst⟩ :=
    wellFounded_lt.has_min {k | column cmps k s t ≠ .eq} (not_forall.mp hdiffer)
  exact ⟨k, fun i hi => not_not.mp fun hne => hfirst i hne hi, hdecides⟩

section

variable {ε : Type} (event : Nat → α → α → Ordering → ε)

/-- Comparisons that leave an event of each of their calls. It may tell the
    number of the slot, the two values as they were handed over, and the
    answer. -/
def recordEach (first : Nat) {n : Nat} :
    Tuple (α → α → Ordering) n → Tuple (α → α → Traced ε Ordering) n
  | nil => nil
  | cons cmp cmps =>
    cons (fun a b => .record (event first a b (cmp a b)) (cmp a b)) (recordEach (first + 1) cmps)

/-- The event that the call for one slot leaves. -/
def slotEvent (first : Nat) (cmps : Tuple (α → α → Ordering) n) (s t : Tuple α n) (k : Fin n) : ε :=
  event (first + k) (s.get k) (t.get k) (column cmps k s t)

variable {event} {first : Nat}

theorem slotEvent_cons_succ (cmp : α → α → Ordering) (cmps : Tuple (α → α → Ordering) n)
    (a b : α) (s t : Tuple α n) (k : Fin n) :
    slotEvent event first (cons cmp cmps) (cons a s) (cons b t) k.succ =
      slotEvent event (first + 1) cmps s t k :=
  congrArg (event · (s.get k) (t.get k) (column cmps k s t)) (Nat.add_right_comm first k 1)

/-- The calls for the slots behind a first one are numbered from there on. -/
theorem map_slotEvent_succ (cmp : α → α → Ordering) (cmps : Tuple (α → α → Ordering) n)
    (a b : α) (s t : Tuple α n) (asked : List (Fin n)) :
    (asked.map Fin.succ).map (slotEvent event first (cons cmp cmps) (cons a s) (cons b t)) =
      asked.map (slotEvent event (first + 1) cmps s t) := by
  rw [List.map_map]
  exact List.map_congr_left fun k _ => slotEvent_cons_succ cmp cmps a b s t k

theorem comparatorM_recordEach_cons (cmp : α → α → Ordering) (cmps : Tuple (α → α → Ordering) n)
    (a b : α) (s t : Tuple α n) :
    comparatorM (recordEach event first (cons cmp cmps)) (cons a s) (cons b t) =
      let rest := if cmp a b = .eq then comparatorM (recordEach event (first + 1) cmps) s t
        else pure (cmp a b)
      ⟨rest.value, event first a b (cmp a b) :: rest.events⟩ := by
  rw [recordEach, comparatorM_cons]
  rfl

theorem value_comparatorM_recordEach (cmps : Tuple (α → α → Ordering) n) (s t : Tuple α n) :
    (comparatorM (recordEach event first cmps) s t).value = comparator cmps s t := by
  induction cmps, s, t using induction₃ generalizing first with
  | nil => rfl
  | cons n cmp a b cmps s t ih =>
    rw [comparatorM_recordEach_cons, comparator_cons]
    cases hhead : cmp a b with
    | eq => exact ih
    | lt | gt => rfl

/-- If no slot decides, every comparison is asked. -/
theorem comparatorM_recordEach_of_eq {cmps : Tuple (α → α → Ordering) n} {s t : Tuple α n}
    (hequal : ∀ k, column cmps k s t = .eq) :
    comparatorM (recordEach event first cmps) s t =
      ⟨.eq, (List.finRange n).map (slotEvent event first cmps s t)⟩ := by
  induction cmps, s, t using induction₃ generalizing first with
  | nil => rfl
  | cons n cmp a b cmps s t ih =>
    have hhead : cmp a b = .eq := hequal 0
    have htail : ∀ k, column cmps k s t = .eq := fun k => hequal k.succ
    rw [comparatorM_recordEach_cons, if_pos hhead, ih htail, List.finRange_succ, List.map_cons,
      map_slotEvent_succ]
    rfl

/-- The first slot that decides is the last one whose comparison is asked. -/
theorem comparatorM_recordEach_of_first {cmps : Tuple (α → α → Ordering) n} {s t : Tuple α n}
    {k : Fin n} (hbefore : ∀ i < k, column cmps i s t = .eq)
    (hdecides : column cmps k s t ≠ .eq) :
    comparatorM (recordEach event first cmps) s t =
      ⟨column cmps k s t,
        ((List.finRange n).take (k + 1)).map (slotEvent event first cmps s t)⟩ := by
  induction cmps, s, t using induction₃ generalizing first with
  | nil => exact k.elim0
  | cons n cmp a b cmps s t ih =>
    rw [comparatorM_recordEach_cons, List.finRange_succ]
    cases k using Fin.cases with
    | zero =>
      have hhead : cmp a b ≠ .eq := hdecides
      rw [if_neg hhead]
      rfl
    | succ k =>
      have hhead : cmp a b = .eq := hbefore 0 (Fin.succ_pos k)
      have htail : ∀ i < k, column cmps i s t = .eq :=
        fun i hi => hbefore i.succ (Fin.succ_lt_succ_iff.mpr hi)
      rw [if_pos hhead, ih htail hdecides, Fin.val_succ, List.take_succ_cons, List.map_cons,
        ← List.map_take, map_slotEvent_succ]
      rfl

end

end Tuple

theorem Look.watchEach_eq_recordEach (first : Nat) {n : Nat}
    (cmps : Tuple (Value → Value → Ordering) n) :
    watchEach first cmps =
      Tuple.recordEach (fun number _ _ answer => .compared number answer) first cmps := by
  induction cmps generalizing first with
  | nil => rfl
  | cons cmp cmps ih => exact congrArg (Tuple.cons (watch first cmp)) (ih (first + 1))

theorem Look.perform_comparator (t : Packed Value) (other : Tuple Value t.arity)
    (cmps : Tuple (Value → Value → Ordering) t.arity) :
    (comparator ⟨t.arity, other, t.arity_le⟩ cmps.toList).perform t =
      (fun answer => .ok (.ordering answer)) <$>
        Tuple.comparatorM (watchEach 1 cmps) t.slots other := by
  have hother : Packed.toTuple? ⟨t.arity, other, t.arity_le⟩ t.arity = some other := by
    simp [Packed.toTuple?]
  have hcmps : Tuple.ofList? t.arity cmps.toList = some cmps := Tuple.ofList?_eq_some.mpr rfl
  simp only [perform, hother, hcmps]
  exact bind_pure_comp _ _

namespace Tuple

/-- A comparator asks the comparisons of the slots in turn, each once and with the
    two values in its slot, up to the first one that finds a difference, or all of
    them if none does. The last answer is the answer of the comparator, and no call
    of it has an influence on a later one. So it is with comparisons of any effects,
    and so a session records the comparators that it is asked for. -/
theorem comparator_asks_up_to_first_difference :
    (∀ {α : Type u} {n : Nat} (cmps : Tuple (α → α → Ordering) n) {ε : Type}
        (event : Nat → α → α → Ordering → ε),
      (∀ s t,
        (comparatorM (recordEach event 1 cmps) s t).value = comparator cmps s t ∧
        ((∀ k, column cmps k s t = .eq) ∧
            comparatorM (recordEach event 1 cmps) s t =
              ⟨.eq, (List.finRange n).map (slotEvent event 1 cmps s t)⟩ ∨
          ∃ k, (∀ i < k, column cmps i s t = .eq) ∧ column cmps k s t ≠ .eq ∧
            comparatorM (recordEach event 1 cmps) s t =
              ⟨column cmps k s t,
                ((List.finRange n).take (k + 1)).map (slotEvent event 1 cmps s t)⟩)) ∧
      ∀ pairs : List (Tuple α n × Tuple α n),
        pairs.mapM (fun pair => comparatorM (recordEach event 1 cmps) pair.1 pair.2) =
          ⟨pairs.map fun pair => comparator cmps pair.1 pair.2,
            pairs.flatMap fun pair =>
              (comparatorM (recordEach event 1 cmps) pair.1 pair.2).events⟩) ∧
    (∀ {α : Type u} {n : Nat} {m : Type → Type v} [Monad m] [LawfulMonad m]
        (cmps : Tuple (α → α → m Ordering) n) (s t : Tuple α n),
      comparatorM cmps s t =
        askInTurn ((List.finRange n).map fun k => cmps.get k (s.get k) (t.get k))) ∧
    ∀ (t : Packed Value) (other : Tuple Value t.arity)
        (cmps : Tuple (Value → Value → Ordering) t.arity),
      (Look.comparator ⟨t.arity, other, t.arity_le⟩ cmps.toList).perform t =
        (fun answer => .ok (.ordering answer)) <$>
          comparatorM (recordEach (fun number _ _ answer => .compared number answer) 1 cmps)
            t.slots other := by
  refine ⟨?calls, comparatorM_eq_askInTurn, ?session⟩
  case calls =>
    intro α n cmps ε event
    have hvalue (s t : Tuple α n) :
        (comparatorM (recordEach event 1 cmps) s t).value = comparator cmps s t :=
      value_comparatorM_recordEach cmps s t
    refine ⟨fun s t => ⟨hvalue s t, ?_⟩, fun pairs => ?_⟩
    · obtain hequal | ⟨k, hbefore, hdecides⟩ := equal_or_first_difference cmps s t
      · exact .inl ⟨hequal, comparatorM_recordEach_of_eq hequal⟩
      · exact .inr ⟨k, hbefore, hdecides, comparatorM_recordEach_of_first hbefore hdecides⟩
    · rw [Traced.mapM_eq]
      simp only [hvalue]
  case session =>
    intro t other cmps
    rw [Look.perform_comparator, Look.watchEach_eq_recordEach]

/-- The second of three slots decides, and the third one is not asked for. -/
theorem comparator_asks_up_to_first_difference_second_slot :
    let s : Tuple Nat 3 := cons 1 (cons 5 (cons 0 nil))
    let t : Tuple Nat 3 := cons 1 (cons 2 (cons 9 nil))
    let event (number a b : Nat) (answer : Ordering) := (number, a, b, answer)
    LawfulMonad (Traced (Nat × Nat × Nat × Ordering)) ∧
      comparatorM (recordEach event 1 (replicate 3 Ord.compare)) s t =
        ⟨.gt, [(1, 1, 1, .eq), (2, 5, 2, .gt)]⟩ := by
  intro s t event
  have hasked := comparator_asks_up_to_first_difference.2.1
    (recordEach event 1 (replicate 3 Ord.compare)) s t
  have hcalls : askInTurn ((List.finRange 3).map fun k =>
      (recordEach event 1 (replicate 3 Ord.compare)).get k (s.get k) (t.get k)) =
        ⟨.gt, [(1, 1, 1, .eq), (2, 5, 2, .gt)]⟩ := by decide
  exact ⟨inferInstance, hasked.trans hcalls⟩

end Tuple

end Polyad
