/-!
Computations that leave a trace of events. Sequencing two of them joins their
traces, so the trace of a whole computation lists its events in order.
-/

namespace Polyad

universe u

/-- A result together with the events that happened on the way to it. -/
structure Traced (ε : Type u) (α : Type u) where
  value : α
  events : List ε := []
  deriving Repr, DecidableEq

namespace Traced

variable {ε α β : Type u}

/-- One event, and a result. -/
def record (event : ε) (value : α) : Traced ε α :=
  ⟨value, [event]⟩

instance : Monad (Traced ε) where
  pure value := ⟨value, []⟩
  bind x f := ⟨(f x.value).value, x.events ++ (f x.value).events⟩

@[simp] theorem value_pure (value : α) : (pure value : Traced ε α).value = value := rfl

@[simp] theorem events_pure (value : α) : (pure value : Traced ε α).events = [] := rfl

@[simp] theorem value_bind (x : Traced ε α) (f : α → Traced ε β) :
    (x >>= f).value = (f x.value).value := rfl

@[simp] theorem events_bind (x : Traced ε α) (f : α → Traced ε β) :
    (x >>= f).events = x.events ++ (f x.value).events := rfl

@[simp] theorem value_record (event : ε) (value : α) : (record event value).value = value := rfl

@[simp] theorem events_record (event : ε) (value : α) :
    (record event value).events = [event] := rfl

instance : LawfulMonad (Traced ε) :=
  LawfulMonad.mk' (Traced ε)
    (fun x => by cases x; simp [Functor.map])
    (fun _ _ => rfl)
    (fun x f g => by simp [bind, List.append_assoc])

@[simp] theorem value_map (f : α → β) (x : Traced ε α) : (f <$> x).value = f x.value := rfl

@[simp] theorem events_map (f : α → β) (x : Traced ε α) : (f <$> x).events = x.events := by
  simp [Functor.map]

end Traced

end Polyad
