import Mathlib.Data.List.Forall2
import Mathlib.Data.List.InsertIdx
import Polyad.Code.Evaluation
import Polyad.Proofs.Family.Names
import Polyad.Tuple.Slot
/-!
How the expressions that fill the slots of tuples are evaluated. An expression that fills
a slot comes to a value with some effects, and a literal has the effects of its slots one
after the other.
-/

namespace Polyad

/-- What is made of a tuple of any arity is made of the tuple of its slots. -/
theorem Tuple.congr_ofList {α β : Type} {n : Nat} (f : {arity : Nat} → Tuple α arity → β)
    (t : Tuple α n) : f (ofList t.toList) = f t := by
  induction t generalizing f with
  | nil => rfl
  | cons head tail ih => exact ih fun rest => f (cons head rest)

theorem Tuple.getElem_toList {α : Type} {n i : Nat} (t : Tuple α n) (hi : i < t.toList.length) :
    t.toList[i] = t.get ⟨i, t.length_toList ▸ hi⟩ :=
  (List.getElem_eq_iff hi).mpr (t.getElem?_toList ⟨i, _⟩)

namespace Code

section Lists

variable {β γ : Type} {R : β → γ → Prop} {xs : List β} {ys : List γ}

theorem forall₂_set (h : List.Forall₂ R xs ys) (k : Nat) {x : β} {y : γ} (hxy : R x y) :
    List.Forall₂ R (xs.set k x) (ys.set k y) := by
  induction h generalizing k with
  | nil => exact .nil
  | cons hfirst hrest ih =>
    cases k with
    | zero => exact .cons hxy hrest
    | succ k => exact .cons hfirst (ih k)

theorem forall₂_eraseIdx (h : List.Forall₂ R xs ys) (k : Nat) :
    List.Forall₂ R (xs.eraseIdx k) (ys.eraseIdx k) := by
  induction h generalizing k with
  | nil => exact .nil
  | cons hfirst hrest ih =>
    cases k with
    | zero => exact hrest
    | succ k => exact .cons hfirst (ih k)

theorem forall₂_comp {δ : Type} {S : γ → δ → Prop} {T : β → δ → Prop} {zs : List δ}
    (hxy : List.Forall₂ R xs ys) (hyz : List.Forall₂ S ys zs)
    (hcomp : ∀ x y z, R x y → S y z → T x z) : List.Forall₂ T xs zs := by
  induction hxy generalizing zs with
  | nil =>
    cases hyz
    exact .nil
  | cons hfirst hrest ih =>
    cases hyz with
    | cons hnext hlater => exact .cons (hcomp _ _ _ hfirst hnext) (ih hlater)

theorem forall₂_replicate (n : Nat) {x : β} {y : γ} (hxy : R x y) :
    List.Forall₂ R (List.replicate n x) (List.replicate n y) := by
  induction n with
  | zero => exact .nil
  | succ n ih => exact .cons hxy ih

end Lists

section Data

variable {m : Type → Type} {α : Type} {n : Nat}

@[simp] theorem Datum.ofSlots_toList (t : Tuple α n) :
    (Datum.ofSlots (Option.some t.toList) : Datum m α) = .tuple t :=
  Tuple.congr_ofList (Datum.tuple ·) t

theorem Datum.nativeOfSlots_toList (t : Tuple α n) :
    (Datum.nativeOfSlots (Option.some t.toList) : Datum m α) = .native t.toNested :=
  Tuple.congr_ofList (fun t => Datum.native t.toNested) t

theorem Datum.field_tuple (t : Tuple α n) (k : Fin n) :
    (Datum.tuple t : Datum m α).field (numberedName "t" (k.val + 1)) = .slot (t.get k) := by
  have hk : k.val < (series "t" n).length := by simp
  have hname : (series "t" n)[k.val] = numberedName "t" (k.val + 1) := by simp [series]
  have hindex := (nodup_series "t" n).idxOf_getElem k.val hk
  rw [hname] at hindex
  rw [field, hindex, t.getElem?_toList]
  rfl

theorem Datum.slots?_slots (w : World m α) (values : List α) :
    Datum.slots? w (values.map .slot) = Option.some values := by
  induction values with
  | nil => rfl
  | cons value rest ih => simp [slots?, slot?, ih]

end Data

namespace Env

variable {m : Type → Type} {α : Type} {names : List String} {values : List (Datum m α)}

@[simp] theorem get_cons_self (env : Env m α) (name : String) (value : Datum m α) :
    get ((name, value) :: env) name = value := by
  simp [get]

theorem get_cons_of_ne (env : Env m α) {name other : String} (value : Datum m α)
    (hne : other ≠ name) : get ((name, value) :: env) other = env.get other := by
  have hother : (other == name) = false := beq_false_of_ne hne
  simp [get, List.lookup_cons, hother]

/-- Every variable of a row has the value in its own place. -/
theorem map_get_zip (hnodup : names.Nodup) (hlength : names.length = values.length) :
    names.map (get (names.zip values)) = values := by
  induction names generalizing values with
  | nil => exact (List.length_eq_zero_iff.mp hlength.symm).symm
  | cons name names ih =>
    cases values with
    | nil => cases hlength
    | cons value values =>
      obtain ⟨hname, hrest⟩ := List.nodup_cons.mp hnodup
      have hothers : names.map (get ((name :: names).zip (value :: values))) =
          names.map (get (names.zip values)) :=
        List.map_congr_left fun other hother =>
          get_cons_of_ne _ _ (ne_of_mem_of_not_mem hother hname)
      rw [List.map_cons, hothers, ih hrest (Nat.succ.inj hlength), List.zip_cons_cons,
        get_cons_self]

theorem get_zip (hnodup : names.Nodup) (hlength : names.length = values.length) {i : Nat}
    {name : String} {value : Datum m α} (hname : names[i]? = Option.some name)
    (hvalue : values[i]? = Option.some value) : get (names.zip values) name = value := by
  have hmap := congrArg (·[i]?) (map_get_zip hnodup hlength)
  simpa [hname, hvalue] using hmap

/-- Arguments that are bound to names. -/
theorem bind_names (names : List String) (values : List (Datum m α)) :
    (List.zipWith Pattern.values (names.map .name) values).flatten = names.zip values := by
  induction names generalizing values with
  | nil => rfl
  | cons name names ih =>
    cases values with
    | nil => rfl
    | cons value values => exact congrArg ((name, value) :: ·) (ih values)

/-- The arguments behind one with a fixed name, which are bound to numbered names. -/
theorem get_argument {name stem : String} {n k : Nat} (hname : Digitless name)
    (first : Datum m α) (hlength : values.length = n) {value : Datum m α}
    (hvalue : values[k]? = Option.some value) :
    get ((name, first) :: (series stem n).zip values) (numberedName stem (k + 1)) = value := by
  have hk : k < n := hlength ▸ (List.getElem?_eq_some_iff.mp hvalue).1
  rw [get_cons_of_ne _ _ (hname.ne_numberedName stem _).symm]
  exact get_zip (nodup_series stem n) (by simp [hlength]) (by simp [series, hk]) hvalue

end Env

namespace Method

variable {m : Type → Type} [Monad m] {α : Type} {w : World m α} {method : Method}
  {names : List String} {types : List Ty}
  (hparams : method.params = (names.map .name).zip types) (hlength : names.length ≤ types.length)

include hparams hlength

theorem patterns_eq :
    method.patterns = (method.receiver.map fun _ => .name "self").toList ++ names.map .name := by
  rw [patterns, hparams, List.map_fst_zip (by simpa using hlength)]

/-- The arguments of a function stand under the names of its parameters. -/
theorem run_of_free (hfree : method.receiver = Option.none) (args : List (Datum m α)) :
    method.run w args =
      Stmt.eval w method.body.result (names.zip args) method.body.stmts := by
  have hpatterns : method.patterns = names.map .name := by
    rw [patterns_eq hparams hlength, hfree]
    rfl
  rw [run, hpatterns, Env.bind_names]

/-- What a method is called on stands in front of them. -/
theorem run_of_receiver {receiver : Receiver} (hreceiver : method.receiver = Option.some receiver)
    (self : Datum m α) (args : List (Datum m α)) :
    method.run w (self :: args) =
      Stmt.eval w method.body.result (("self", self) :: names.zip args) method.body.stmts := by
  have hpatterns : method.patterns = ("self" :: names).map .name := by
    rw [patterns_eq hparams hlength, hreceiver]
    rfl
  rw [run, hpatterns, Env.bind_names, List.zip_cons_cons]

end Method

variable {m : Type → Type} [Monad m] {α : Type} (w : World m α) (env : Env m α)

/-- An expression comes to the value of a slot, with some effects on the way. -/
def Expr.Gives (e : Expr) (value : m α) : Prop :=
  Datum.slot? w <$> e.eval w env = Option.some <$> value

variable {w env} [LawfulMonad m] {n : Nat} {name : String} {es : List Expr} {values : List (m α)}

theorem slots?_evalEach (hgives : List.Forall₂ (Expr.Gives w env) es values) :
    Datum.slots? w <$> Expr.evalEach w env es = Option.some <$> values.mapM id := by
  induction hgives with
  | nil => simp [Datum.slots?]
  | @cons e value es values hfirst hrest ih =>
    calc Datum.slots? w <$> Expr.evalEach w env (e :: es)
        = (do
            let first ← Datum.slot? w <$> e.eval w env
            let rest ← Datum.slots? w <$> Expr.evalEach w env es
            return first.bind fun value => rest.map (value :: ·)) := by
          simp [Datum.slots?]
      _ = (do
            let first ← Option.some <$> value
            let rest ← Option.some <$> values.mapM id
            return first.bind fun value => rest.map (value :: ·)) := by
          rw [hfirst, ih]
      _ = Option.some <$> (value :: values).mapM id := by simp [List.mapM_cons]

/-- A literal has the effects of its slots one after the other and comes to the tuple of
    what they give. -/
theorem Expr.eval_tuple (hgives : List.Forall₂ (Expr.Gives w env) es values)
    {result : m (Tuple α n)} (hresult : values.mapM id = Tuple.toList <$> result) :
    (Expr.tuple es).eval w env = (Datum.tuple ·) <$> result := by
  have hslots := congrArg (Datum.ofSlots (m := m) (α := α) <$> ·) (slots?_evalEach hgives)
  simpa only [Expr.eval, hresult, Functor.map_map, Datum.ofSlots_toList] using hslots

theorem mapM_id_map_pure (slots : List α) : (slots.map pure).mapM id = (pure slots : m _) := by
  rw [List.mapM_map]
  exact List.mapM_pure.trans (by rw [List.map_id'])

/-- A literal whose slots have no effects. -/
theorem Expr.eval_tuple_pure {t : Tuple α n}
    (hgives : List.Forall₂ (Expr.Gives w env) es (t.toList.map pure)) :
    (Expr.tuple es).eval w env = pure (.tuple t) := by
  have hresult : (t.toList.map pure).mapM id = Tuple.toList <$> (pure t : m _) := by
    rw [mapM_id_map_pure, map_pure]
  rw [Expr.eval_tuple hgives hresult, map_pure]

theorem Expr.eval_native {t : Tuple α n}
    (hgives : List.Forall₂ (Expr.Gives w env) es (t.toList.map pure)) :
    (Expr.native es).eval w env = pure (.native t.toNested) := by
  have hslots := congrArg (Datum.nativeOfSlots (m := m) (α := α) <$> ·) (slots?_evalEach hgives)
  rw [mapM_id_map_pure, map_pure, map_pure, Datum.nativeOfSlots_toList] at hslots
  simpa only [Expr.eval, Functor.map_map] using hslots

theorem Expr.eval_field {t : Tuple α n} (hname : env.get name = .tuple t) (k : Fin n) :
    (Expr.field (.var name) (numberedName "t" (k.val + 1))).eval w env =
      pure (.slot (t.get k)) := by
  rw [Expr.eval, Expr.eval, hname, map_pure, Datum.field_tuple]

theorem Expr.gives_of_eval {e : Expr} {datum : Datum m α} {value : α}
    (heval : e.eval w env = pure datum) (hslot : datum.slot? w = Option.some value) :
    Expr.Gives w env e (pure value) := by
  rw [Expr.Gives, heval, map_pure, map_pure, hslot]

theorem Expr.gives_var {value : α} (hname : env.get name = .slot value) :
    Expr.Gives w env (.var name) (pure value) :=
  Expr.gives_of_eval (by rw [Expr.eval, hname]) rfl

theorem Expr.gives_none : Expr.Gives w env .none (pure (w.wrap Option.none)) :=
  have heval : Expr.none.eval w env = pure .absent := rfl
  Expr.gives_of_eval heval rfl

theorem Expr.gives_some {e : Expr} {value : α} (heval : e.eval w env = pure (.slot value)) :
    Expr.Gives w env (.some e) (pure (w.wrap (Option.some value))) := by
  have hpresent : (Expr.some e).eval w env = pure (.present (.slot value)) := by
    simp [Expr.some, Expr.known, heval, Path.datum, Datum.apply]
  exact Expr.gives_of_eval hpresent rfl

/-- The slots of a tuple that a variable stands for. -/
theorem Expr.eval_fields {t : Tuple α n} (hname : env.get name = .tuple t) :
    List.Forall₂ (fun e value => e.eval w env = pure (.slot value))
      ((series "t" n).map (Expr.field (.var name))) t.toList := by
  refine List.forall₂_iff_get.mpr ⟨by simp, fun i hleft hright => ?_⟩
  have hi : i < n := by simpa using hleft
  simpa [series, Tuple.getElem_toList] using Expr.eval_field (w := w) hname ⟨i, hi⟩

theorem Expr.gives_fields {t : Tuple α n} (hname : env.get name = .tuple t) :
    List.Forall₂ (Expr.Gives w env) ((series "t" n).map (Expr.field (.var name)))
      (t.toList.map pure) :=
  List.forall₂_map_right_iff.mpr
    ((Expr.eval_fields hname).imp fun _ _ heval => Expr.gives_of_eval heval rfl)

/-- The same slots, held as optional values that are there. -/
theorem Expr.gives_present_fields {t : Tuple α n} (hname : env.get name = .tuple t) :
    List.Forall₂ (Expr.Gives w env)
      (((series "t" n).map (Expr.field (.var name))).map Expr.some)
      ((t.toList.map fun value => w.wrap (Option.some value)).map pure) := by
  rw [List.forall₂_map_left_iff, List.map_map, List.forall₂_map_right_iff]
  exact (Expr.eval_fields hname).imp fun _ _ heval => Expr.gives_some heval

/-- A function is called with what its arguments give. -/
theorem Expr.eval_call {f : Curried α n (m (Given α))} {t : Tuple α n}
    (hname : env.get name = .function f)
    (hgives : List.Forall₂ (Expr.Gives w env) es (t.toList.map pure)) :
    (Expr.call (.var name) es).eval w env = Given.datum <$> t.apply f := by
  have hslots : Datum.slots? w <$> Expr.evalEach w env es = pure (Option.some t.toList) := by
    rw [slots?_evalEach hgives, mapM_id_map_pure, map_pure]
  have htuple : Tuple.ofList? n t.toList = Option.some t := Tuple.ofList?_eq_some.mpr rfl
  calc (Expr.call (.var name) es).eval w env
      = (Datum.slots? w <$> Expr.evalEach w env es >>= fun slots =>
          (slots.bind (Tuple.ofList? n)).elim (pure .stuck) fun t =>
            Given.datum <$> t.apply f) := by
        rw [Expr.eval, Expr.eval, hname, pure_bind, bind_map_left]
        rfl
    _ = Given.datum <$> t.apply f := by
        rw [hslots, pure_bind, Option.bind_some, htuple, Option.elim_some]

section Presence

variable {target present absent : Expr} {binder : String}

theorem Expr.eval_byPresence_present {inner : Datum m α}
    (htarget : target.eval w env = pure (.present inner)) :
    (Expr.byPresence target binder present absent).eval w env =
      present.eval w (env.bind binder inner) := by
  rw [Expr.eval, htarget, pure_bind]

theorem Expr.eval_byPresence_absent (htarget : target.eval w env = pure .absent) :
    (Expr.byPresence target binder present absent).eval w env = absent.eval w env := by
  rw [Expr.eval, htarget, pure_bind]

end Presence

end Code

end Polyad
