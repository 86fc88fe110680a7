import Polyad.Family.Items
import Polyad.Proofs.Family.Evaluation
import Polyad.Tuple.Append
import Polyad.Tuple.Sampling
import Polyad.Tuple.Whole
/-!
What the methods of one arity compute. Each of them is the operation on tuples of that
arity: the code that is generated for it comes to what the operation gives, and it calls
the same functions in the same order.
-/

namespace Polyad

open Code

namespace Template

variable (t : Template) {m : Type → Type} [Monad m] {α : Type} (w : World m α)
  (s : Tuple α t.arity)

section Building

theorem eval_tupleOfVars {env : Env m α} {s : Tuple α t.arity}
    (henv : env = t.fields.zip (s.toList.map .slot)) :
    (Expr.tupleOfVars t.arity).eval w env = pure (.tuple s) := by
  have hvalues : (series "t" t.arity).map env.get = s.toList.map .slot := by
    rw [henv]
    exact Env.map_get_zip (nodup_series "t" t.arity) (by simp [fields])
  rw [Expr.eval, hvalues, Datum.slots?_slots, Datum.ofSlots_toList]

theorem run_buildAll : t.buildAll.run w (s.toList.map .slot) = pure (.tuple s) := by
  have hparams : t.buildAll.params = (t.fields.map .name).zip t.types := rfl
  rw [Method.run_of_free hparams (by simp [fields]) rfl]
  exact t.eval_tupleOfVars w rfl

theorem run_wrapNative (x : Nested α t.arity) :
    t.wrapNative.run w [.native x] = pure (.tuple (Tuple.ofNested x)) := by
  refine t.eval_tupleOfVars w ?_
  have hvalues : (Tuple.ofNested x).toList = x.toList := by
    rw [← Tuple.toList_toNested, Tuple.toNested_ofNested]
  rw [hvalues]
  exact List.append_nil _

end Building

variable [LawfulMonad m]

section Reading

/-- The slots, where the tuple is what a method was called on. -/
theorem gives_slots {w : World m α} {env : Env m α} {s : Tuple α t.arity}
    (hself : env.get "self" = .tuple s) :
    List.Forall₂ (Expr.Gives w env) t.slots (s.toList.map pure) :=
  Expr.gives_fields hself

theorem run_readSlot (k : Fin t.arity) :
    (readSlot (k.val + 1)).run w [.tuple s] = pure (.slot (s.get k)) :=
  Expr.eval_field rfl k

theorem run_unwrapAll : t.unwrapAll.run w [.tuple s] = pure (.native s.toNested) :=
  Expr.eval_native (t.gives_slots rfl)

theorem run_borrowAll : t.borrowAll.run w [.tuple s] = pure (.tuple s) := by
  refine Expr.eval_tuple_pure (List.forall₂_map_left_iff.mpr ?_)
  exact t.gives_slots rfl

theorem run_emptyTuple :
    t.emptyTuple.run w [] = pure (.tuple ((Tuple.empty t.arity).map w.wrap)) := by
  refine Expr.eval_tuple_pure ?_
  rw [Tuple.toList_map, Tuple.empty, Tuple.toList_replicate, List.map_replicate,
    List.map_replicate]
  exact forall₂_replicate t.arity Expr.gives_none

end Reading

section Slots

variable (k : Fin t.arity)

theorem run_setSlot (value : α) :
    (t.setSlot k).run w [.tuple s, .slot value] = pure (.tuple (s.set k value)) := by
  refine Expr.eval_tuple_pure ?_
  rw [Tuple.toList_set, List.map_set]
  exact forall₂_set (t.gives_slots rfl) k (Expr.gives_var rfl)

theorem run_eraseSlot {n ceiling : Nat} {home : List Token} (s : Tuple α (n + 1))
    (k : Fin (n + 1)) :
    ((Template.mk (n + 1) ceiling home).eraseSlot k).run w [.tuple s] =
      pure (.tuple (s.erase k)) := by
  refine Expr.eval_tuple_pure ?_
  rw [Tuple.toList_erase, ← List.eraseIdx_map]
  exact forall₂_eraseIdx (gives_slots _ rfl) k

theorem gives_call_slot {env : Env m α} {name : String} {f : α → m α} {s : Tuple α t.arity}
    (hself : env.get "self" = .tuple s) (hname : env.get name = .ofFunction f) :
    Expr.Gives w env (.call (.var name) [.slot (numberedName "t" (k.val + 1))]) (f (s.get k)) := by
  have hslot : Expr.Gives w env (.slot (numberedName "t" (k.val + 1))) (pure (s.get k)) :=
    Expr.gives_of_eval (Expr.eval_field hself k) rfl
  have hcall := Expr.eval_call (w := w) (t := .cons (s.get k) .nil) hname (.cons hslot .nil)
  rw [Expr.Gives, hcall]
  simp only [Tuple.apply, Functor.map_map]
  rfl

/-- Only the slot that changes has an effect. -/
theorem mapM_set_modifyM {n : Nat} (s : Tuple α n) (k : Fin n) (f : α → m α) :
    ((s.toList.map pure).set k (f (s.get k))).mapM id = Tuple.toList <$> s.modifyM k f := by
  induction s with
  | nil => exact k.elim0
  | cons head tail ih =>
    obtain ⟨k, hk⟩ := k
    cases k with
    | zero =>
      simp only [Tuple.get, Tuple.modifyM, Tuple.toList_cons, List.map_cons, List.set_cons_zero,
        List.mapM_cons, id, mapM_id_map_pure]
      simp
    | succ k =>
      have hrest := ih ⟨k, Nat.lt_of_succ_lt_succ hk⟩
      simp only [Tuple.get, Tuple.modifyM, Tuple.toList_cons, List.map_cons, List.set_cons_succ,
        List.mapM_cons, id, pure_bind, hrest]
      simp

theorem run_mapSlot (f : α → m α) :
    (t.mapSlot k).run w [.tuple s, .ofFunction f] = (Datum.tuple ·) <$> s.modifyM k f := by
  refine Expr.eval_tuple ?_ (mapM_set_modifyM s k f)
  exact forall₂_set (t.gives_slots rfl) k (t.gives_call_slot w k rfl rfl)

end Slots

section Joining

variable {p : Nat} (other : Tuple α p)

theorem run_pushFront (value : α) :
    t.pushFront.run w [.tuple s, .slot value] = pure (.tuple (.cons value s)) :=
  Expr.eval_tuple_pure (.cons (Expr.gives_var rfl) (t.gives_slots rfl))

theorem run_pushBack (value : α) :
    t.pushBack.run w [.tuple s, .slot value] = pure (.tuple (s.push value)) := by
  refine Expr.eval_tuple_pure ?_
  rw [Tuple.toList_push, List.map_append]
  exact List.rel_append (t.gives_slots rfl) (.cons (Expr.gives_var rfl) .nil)

theorem run_join : (t.join p).run w [.tuple s, .tuple other] = pure (.tuple (s.append other)) := by
  refine Expr.eval_tuple_pure ?_
  rw [Tuple.toList_append, List.map_append]
  refine List.rel_append (t.gives_slots rfl) ?_
  cases p with
  | zero =>
    -- A tuple without slots is not bound to a name.
    cases other
    exact .nil
  | succ p => exact Expr.gives_fields rfl

theorem run_joinOptional (other : Option (Tuple α p)) :
    (t.joinOptional p).run w [.tuple s, .ofOption (other.map (Datum.tuple ·))] =
      pure (.tuple (s.pad w.wrap other)) := by
  cases other with
  | none =>
    refine (Expr.eval_byPresence_absent rfl).trans (Expr.eval_tuple_pure ?_)
    rw [Tuple.toList_pad, Tuple.toList_padding_none, List.map_append, List.map_replicate]
    exact List.rel_append (t.gives_slots rfl) (forall₂_replicate p Expr.gives_none)
  | some other =>
    refine (Expr.eval_byPresence_present rfl).trans (Expr.eval_tuple_pure ?_)
    rw [Tuple.toList_pad, Tuple.toList_padding_some, List.map_append]
    cases p with
    | zero =>
      cases other
      exact List.rel_append (t.gives_slots rfl) .nil
    | succ p => exact List.rel_append (t.gives_slots rfl) (Expr.gives_present_fields rfl)

end Joining

section Whole

theorem mapM_mapEachM {n : Nat} (fs : Tuple (α → m α) n) (s : Tuple α n) :
    (Tuple.mapEach fs s).toList.mapM id = Tuple.toList <$> Tuple.mapEachM fs s := by
  induction fs, s using Tuple.induction₂ with
  | nil => simp [Tuple.mapEach, Tuple.mapEachM]
  | cons n f a fs s ih =>
    simp only [Tuple.mapEach, Tuple.mapEachM, Tuple.toList_cons, List.mapM_cons, id, ih]
    simp

/-- Every slot is handed to the function in its own place. -/
theorem gives_each {env : Env m α} {fs : Tuple (α → m α) t.arity} {s : Tuple α t.arity}
    (hself : env.get "self" = .tuple s)
    (hfs : ∀ k : Fin t.arity,
      env.get (numberedName "f" (k.val + 1)) = .ofFunction (fs.get k)) :
    List.Forall₂ (Expr.Gives w env)
      (List.zipWith (fun f slot => .call (.var f) [slot]) (series "f" t.arity) t.slots)
      (Tuple.mapEach fs s).toList := by
  refine List.forall₂_iff_get.mpr ⟨by simp, fun i hleft hright => ?_⟩
  have hi : i < t.arity := by simpa using hleft
  simpa [series, slots, fields, Tuple.getElem_toList] using
    t.gives_call_slot w ⟨i, hi⟩ hself (hfs ⟨i, hi⟩)

theorem run_mapEach (fs : Tuple (α → m α) t.arity) :
    t.mapEach.run w (.tuple s :: fs.toList.map .ofFunction) =
      (Datum.tuple ·) <$> Tuple.mapEachM fs s := by
  have hparams : t.mapEach.params =
      ((series "f" t.arity).map .name).zip ((series "F" t.arity).map .param) := rfl
  rw [Method.run_of_receiver hparams (by simp) rfl]
  refine Expr.eval_tuple (t.gives_each w (Env.get_cons_self ..) fun k => ?_)
    (mapM_mapEachM fs s)
  exact Env.get_argument (by decide) _ (by simp) (by simp [Tuple.getElem_toList])

/-- The whole tuple is handed to the function, every slot in its place. -/
theorem run_mapAll (f : Curried α t.arity (m (Given α))) :
    t.mapAll.run w [.tuple s, .function f] = Given.datum <$> s.apply f :=
  Expr.eval_call rfl (t.gives_slots rfl)

theorem run_applyAll (f : Curried α t.arity (m (Given α))) :
    t.applyAll.run w [.tuple s, .function f] = Given.datum <$> s.apply f :=
  Expr.eval_call rfl (t.gives_slots rfl)

end Whole

end Template

end Polyad
