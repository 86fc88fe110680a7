import Polyad.Proofs.Family.Meaning
import Polyad.Proofs.Family.Typing
/-!
What the methods of one arity compute that call other methods of the same type: the
checked twins, which look for what may be missing first, the conversion to tuples of the
language, and test data.
-/

namespace Polyad.Template

open Code

variable (t : Template) {m : Type → Type} [Monad m] {α : Type} (w : World m α)

/-- The functions and methods that others of the type call. -/
def helpers : List Method :=
  [t.unwrapAll, t.wrapNative, t.mapAll, t.mapEach, t.applyAll] ++
    (List.range t.arity).map t.mapSlot

/-- They are generated for the type themselves. -/
theorem exists_item_of_mem_helpers {method : Method} (hmethod : method ∈ t.helpers) :
    ∃ item ∈ t.fixedItems, method ∈ item.methodList := by
  have hconversion : Item.implementation [] (Param.free t.params) (madeFrom (.native t.types))
      t.type [.method t.wrapNative] ∈ t.fixedItems := by
    simp [fixedItems, nativeItems]
  obtain hfixed | hnumbered := List.mem_append.mp hmethod
  · simp only [List.mem_cons, List.not_mem_nil, or_false] at hfixed
    obtain rfl | rfl | rfl | rfl | rfl := hfixed
    · exact ⟨t.accessItem, by simp [fixedItems], by simp [accessItem, Item.methodList]⟩
    · exact ⟨_, hconversion, by simp [Item.methodList]⟩
    all_goals exact ⟨t.wholeItem, by simp [fixedItems], by simp [wholeItem, Item.methodList]⟩
  · obtain ⟨k, hk, rfl⟩ := List.mem_map.mp hnumbered
    refine ⟨t.slotItem, by simp [fixedItems], ?_⟩
    exact List.mem_flatMap.mpr ⟨k, hk, by simp⟩

/-- The world in which they are found. -/
def world : World m α :=
  { w with
    own := fun name args =>
      match t.helpers.find? fun method => method.name = name with
      | some method => method.run w args
      | none => pure .stuck }

theorem names_helpers :
    t.helpers.map Method.name =
      ["into_inner", "from", "map", "map_each", "apply"] ++ series "map" t.arity := by
  simp [helpers, series, unwrapAll, wrapNative, mapAll, mapEach, applyAll, mapSlot]

theorem nodup_helpers : (t.helpers.map Method.name).Nodup := by
  rw [names_helpers]
  refine List.Nodup.append (by decide) (nodup_series "map" t.arity) ?_
  intro name hfixed hnumbered
  obtain ⟨k, -, rfl⟩ := List.mem_map.mp hnumbered
  have hdigitless : ∀ name ∈ ["into_inner", "from", "map", "map_each", "apply"],
      Digitless name := by decide
  exact (hdigitless _ hfixed).ne_numberedName "map" (k + 1) rfl

theorem find?_name {methods : List Method} (hnodup : (methods.map Method.name).Nodup)
    {method : Method} (hmethod : method ∈ methods) :
    methods.find? (fun other => other.name = method.name) = some method := by
  induction methods with
  | nil => cases hmethod
  | cons first rest ih =>
    obtain ⟨hfirst, hrest⟩ := List.nodup_cons.mp hnodup
    obtain rfl | hlater := List.mem_cons.mp hmethod
    · exact List.find?_cons_of_pos (by simp)
    · have hne : first.name ≠ method.name := fun hname =>
        hfirst (hname ▸ List.mem_map_of_mem hlater)
      rw [List.find?_cons_of_neg (by simpa using hne), ih hrest hlater]

theorem own_world {method : Method} (hmethod : method ∈ t.helpers) {name : String}
    (hname : method.name = name) (args : List (Datum m α)) :
    (t.world w).own name args = method.run w args := by
  rw [← hname]
  simp only [world, find?_name t.nodup_helpers hmethod]

section Expressions

variable {w} {env : Env m α} [LawfulMonad m]

theorem eval_ok (e : Expr) : (Expr.ok e).eval w env = Datum.ok <$> e.eval w env := by
  simp [Expr.ok, Expr.known, Path.datum, Datum.apply]

/-- What a checked method gives once everything that it needs was found. -/
theorem eval_ok_checked {φ β : Type} {e : Expr} {datum : β → Datum m α} {call : φ → m β}
    {found : φ} (heval : e.eval w env = datum <$> call found) :
    (Expr.ok e).eval w env =
      (fun answer => .ofExcept (answer.map datum)) <$> Tuple.checked (.ok found) call := by
  rw [eval_ok, heval]
  simp [Tuple.checked, Except.map, Datum.ofExcept]

theorem eval_method {n : Nat} {s : Tuple α n} {target : String} {args : List Expr}
    {values : List (Datum m α)} (htarget : env.get target = .tuple s)
    (hargs : Expr.evalEach w env args = pure values) (name : String) :
    (Expr.method (.var target) name args).eval w env = w.own name (.tuple s :: values) := by
  rw [Expr.eval, Expr.eval, htarget, pure_bind, hargs, pure_bind]
  rfl

theorem eval_call_ofSelf (name : String) (args : List Expr) :
    (Expr.call (.ofSelf name) args).eval w env = Expr.evalEach w env args >>= w.own name := by
  rw [Expr.eval, Expr.ofSelf, Expr.eval, pure_bind]
  rfl

theorem evalEach_vars (names : List String) :
    Expr.evalEach w env (names.map .var) = pure (names.map env.get) := by
  induction names with
  | nil => rw [List.map_nil, List.map_nil, Expr.evalEach]
  | cons name names ih =>
    rw [List.map_cons, List.map_cons, Expr.evalEach, Expr.eval, ih, pure_bind, pure_bind]

/-- A missing function ends the method before anything is called. -/
theorem eval_demand {operation argument : String} {given : Option (Datum m α)}
    (hargument : env.get argument = .ofOption given) (result : Expr) (rest : List Stmt) :
    Stmt.eval w result env (t.demand operation argument :: rest) =
      match given with
      | some f => Stmt.eval w result ((argument, f) :: env) rest
      | none => pure (.refused (.missing operation argument)) := by
  cases given with
  | none =>
    simp [demand, path, Stmt.eval, hargument, Path.datum, Datum.apply, Datum.ofOption,
      Datum.method, Datum.unwrap]
  | some f =>
    simp [demand, path, Stmt.eval, hargument, Path.datum, Datum.apply, Datum.ofOption,
      Datum.method, Datum.unwrap]

end Expressions

variable [LawfulMonad m] (s : Tuple α t.arity)

/-- The checked twin of a method with one function is that method once the function is
    there. -/
theorem run_twin {twin plain : Method} (hplain : plain ∈ t.helpers)
    (hbody : twin.body =
      { stmts := [t.demand plain.name "f"]
        result := .ok (.method .self plain.name [.var "f"]) })
    (hpatterns : twin.patterns = [.name "self", .name "f"])
    {φ β : Type} {hand : φ → Datum m α} {datum : β → Datum m α} {call : φ → m β}
    (hcall : ∀ f, plain.run w [.tuple s, hand f] = datum <$> call f) (given : Option φ) :
    twin.run (t.world w) [.tuple s, .ofOption (given.map hand)] =
      (fun answer => .ofExcept (answer.map datum)) <$>
        Tuple.checked (Fault.require plain.name "f" given) call := by
  have henv : (List.zipWith Pattern.values twin.patterns
      [.tuple s, .ofOption (given.map hand)]).flatten =
        [("self", .tuple s), ("f", .ofOption (given.map hand))] := by
    rw [hpatterns]
    rfl
  have hargument : Env.get [("self", .tuple s), ("f", .ofOption (given.map hand))] "f" =
      .ofOption (given.map hand) := rfl
  rw [Method.run, hbody, henv, t.eval_demand hargument]
  cases given with
  | none => simp [Tuple.checked, Fault.require, Datum.ofExcept, Except.map]
  | some f =>
    have hself : Expr.eval (t.world w)
        [("f", hand f), ("self", .tuple s), ("f", .ofOption (some (hand f)))]
        (.method .self plain.name [.var "f"]) = datum <$> call f := by
      rw [← hcall, ← t.own_world w hplain rfl]
      exact eval_method rfl (evalEach_vars ["f"]) plain.name
    exact eval_ok_checked hself

theorem run_tryMapSlot (k : Fin t.arity) (f : Option (α → m α)) :
    (t.tryMapSlot k).run (t.world w) [.tuple s, .ofOption (f.map .ofFunction)] =
      (fun answer => .ofExcept (answer.map (Datum.tuple ·))) <$> s.tryModifyM k f := by
  have hplain : t.mapSlot k ∈ t.helpers :=
    List.mem_append_right _ (List.mem_map_of_mem (List.mem_range.mpr k.isLt))
  exact t.run_twin w s hplain rfl rfl (t.run_mapSlot w s k) f

theorem run_tryMapAll (f : Option (Curried α t.arity (m (Given α)))) :
    t.tryMapAll.run (t.world w) [.tuple s, .ofOption (f.map (Datum.function ·))] =
      (fun answer => .ofExcept (answer.map Given.datum)) <$> s.tryApplyM "map" f :=
  have hplain : t.mapAll ∈ t.helpers := by simp [helpers]
  t.run_twin w s hplain rfl rfl (t.run_mapAll w s) f

theorem run_tryApplyAll (f : Option (Curried α t.arity (m (Given α)))) :
    t.tryApplyAll.run (t.world w) [.tuple s, .ofOption (f.map (Datum.function ·))] =
      (fun answer => .ofExcept (answer.map Given.datum)) <$> s.tryApplyM "apply" f :=
  have hplain : t.applyAll ∈ t.helpers := by simp [helpers]
  t.run_twin w s hplain rfl rfl (t.run_applyAll w s) f

section Demands

variable {φ : Type} (hand : φ → Datum m α)

/-- The functions that were found, bound to their names from the one numbered `first` on. -/
def bindFrom : {n : Nat} → Nat → Tuple φ n → Env m α → Env m α
  | _, _, .nil, env => env
  | _, first, .cons f fs, env => bindFrom (first + 1) fs ((numberedName "f" first, hand f) :: env)

omit [Monad m] [LawfulMonad m] in
theorem get_bindFrom_of_forall_ne {n : Nat} (fs : Tuple φ n) {first : Nat} {env : Env m α}
    {name : String} (hname : ∀ number, first ≤ number → name ≠ numberedName "f" number) :
    (bindFrom hand first fs env).get name = env.get name := by
  induction fs generalizing first env with
  | nil => rfl
  | cons f fs ih =>
    have hlater (number : Nat) (hnumber : first + 1 ≤ number) : name ≠ numberedName "f" number :=
      hname number (Nat.le_of_succ_le hnumber)
    rw [bindFrom, ih hlater, Env.get_cons_of_ne _ _ (hname first (Nat.le_refl first))]

omit [Monad m] [LawfulMonad m] in
theorem get_bindFrom {n : Nat} (fs : Tuple φ n) (first : Nat) (env : Env m α) (k : Fin n) :
    (bindFrom hand first fs env).get (numberedName "f" (first + k.val)) = hand (fs.get k) := by
  induction fs generalizing first env with
  | nil => exact k.elim0
  | cons f fs ih =>
    obtain ⟨k, hk⟩ := k
    cases k with
    | zero =>
      have hlater (number : Nat) (hnumber : first + 1 ≤ number) :
          numberedName "f" first ≠ numberedName "f" number := by
        rw [Ne, numberedName_inj]
        omega
      change (bindFrom hand (first + 1) fs _).get (numberedName "f" first) = hand f
      rw [get_bindFrom_of_forall_ne hand fs hlater, Env.get_cons_self]
    | succ k =>
      have hnumber : first + (k + 1) = first + 1 + k := by omega
      change (bindFrom hand (first + 1) fs _).get (numberedName "f" (first + (k + 1))) = _
      rw [hnumber]
      exact ih (first + 1) _ ⟨k, Nat.lt_of_succ_lt_succ hk⟩

/-- All functions are looked for, and the first one that is missing is named, before the
    rest of the method is evaluated. -/
theorem eval_demands {n first : Nat} (fs : Tuple (Option φ) n) {env : Env m α}
    (hfs : ∀ k : Fin n,
      env.get (numberedName "f" (first + k.val)) = .ofOption ((fs.get k).map hand))
    (result : Expr) :
    Stmt.eval w result env ((List.range' first n).map fun number =>
        t.demand "map_each" (numberedName "f" number)) =
      match fs.require "map_each" first with
      | .error fault => pure (.refused fault)
      | .ok fs => result.eval w (bindFrom hand first fs env) := by
  induction fs generalizing first env with
  | nil => rfl
  | cons f fs ih =>
    have hfirst : env.get (numberedName "f" first) = .ofOption (f.map hand) := hfs 0
    rw [List.range'_succ, List.map_cons, t.eval_demand hfirst]
    cases f with
    | none => rfl
    | some f =>
      have hrest (k : Fin _) :
          Env.get ((numberedName "f" first, hand f) :: env) (numberedName "f" (first + 1 + k.val)) =
            .ofOption ((fs.get k).map hand) := by
        have hne : numberedName "f" (first + 1 + k.val) ≠ numberedName "f" first := by
          rw [Ne, numberedName_inj]
          omega
        have hnumber : first + (k.val + 1) = first + 1 + k.val := by omega
        rw [Env.get_cons_of_ne _ _ hne, ← hnumber]
        exact hfs k.succ
      refine (ih hrest).trans ?_
      cases hfs : fs.require "map_each" (first + 1) with
      | error fault => simp [Tuple.require, Fault.require, hfs]
      | ok found => simp [Tuple.require, Fault.require, hfs, bindFrom]

end Demands

theorem series_eq_range' (stem : String) (n : Nat) :
    series stem n = (List.range' 1 n).map (numberedName stem) := by
  rw [List.range'_eq_map_range, List.map_map]
  exact List.map_congr_left fun k _ => congrArg (numberedName stem) (Nat.add_comm k 1)

omit [Monad m] [LawfulMonad m] in
theorem map_get_bindFrom {φ : Type} (hand : φ → Datum m α) {n : Nat} (fs : Tuple φ n)
    (env : Env m α) :
    (series "f" n).map (bindFrom hand 1 fs env).get = fs.toList.map hand := by
  refine List.ext_getElem (by simp) fun i hleft hright => ?_
  have hi : i < n := by simpa using hleft
  have hget := get_bindFrom hand fs 1 env ⟨i, hi⟩
  simpa [series, Tuple.getElem_toList, Nat.add_comm] using hget

theorem run_tryMapEach (fs : Tuple (Option (α → m α)) t.arity) :
    t.tryMapEach.run (t.world w)
        (.tuple s :: fs.toList.map fun f => .ofOption (f.map .ofFunction)) =
      (fun answer => .ofExcept (answer.map (Datum.tuple ·))) <$> Tuple.tryMapEachM fs s := by
  let values := fs.toList.map fun f => Datum.ofOption (f.map (Datum.ofFunction (m := m) (α := α)))
  have hparams : t.tryMapEach.params = ((series "f" t.arity).map .name).zip
      ((series "F" t.arity).map fun f => .option (.param f)) := rfl
  have hfs (k : Fin t.arity) :
      Env.get (("self", .tuple s) :: (series "f" t.arity).zip values)
          (numberedName "f" (1 + k.val)) = .ofOption ((fs.get k).map .ofFunction) := by
    rw [Nat.add_comm]
    exact Env.get_argument (by decide) _ (by simp [values]) (by simp [values, Tuple.getElem_toList])
  have hdemands := t.eval_demands (t.world w) .ofFunction fs hfs t.tryMapEach.body.result
  have hstmts : t.tryMapEach.body.stmts =
      (List.range' 1 t.arity).map fun number => t.demand "map_each" (numberedName "f" number) := by
    change (series "f" t.arity).map _ = _
    rw [series_eq_range', List.map_map]
    rfl
  rw [Method.run_of_receiver hparams (by simp) rfl, hstmts, hdemands]
  cases hfound : fs.require "map_each" 1 with
  | error fault => simp [Tuple.tryMapEachM, Tuple.checked, hfound, Except.map, Datum.ofExcept]
  | ok found =>
    have hself : (bindFrom .ofFunction 1 found
        (("self", .tuple s) :: (series "f" t.arity).zip values)).get "self" = .tuple s := by
      rw [get_bindFrom_of_forall_ne]
      · exact Env.get_cons_self ..
      · exact fun number _ => (show Digitless "self" by decide).ne_numberedName "f" number
    have hplain : t.mapEach ∈ t.helpers := by simp [helpers]
    have hcall := eval_method (w := t.world w) hself
      (evalEach_vars (series "f" t.arity)) "map_each"
    rw [map_get_bindFrom] at hcall
    have hanswer := hcall.trans ((t.own_world w hplain rfl _).trans (t.run_mapEach w s found))
    rw [Tuple.tryMapEachM, hfound]
    exact eval_ok_checked hanswer

section Conversions

theorem own_into_inner :
    (t.world w).own "into_inner" [.tuple s] = pure (.native s.toNested) :=
  have hplain : t.unwrapAll ∈ t.helpers := by simp [helpers]
  (t.own_world w hplain rfl _).trans (t.run_unwrapAll w s)

omit [LawfulMonad m] in
theorem own_from (x : Nested α t.arity) :
    (t.world w).own "from" [.native x] = pure (.tuple (Tuple.ofNested x)) :=
  have hplain : t.wrapNative ∈ t.helpers := by simp [helpers]
  (t.own_world w hplain rfl _).trans (t.run_wrapNative w x)

theorem run_unwrapNative :
    t.unwrapNative.run (t.world w) [.tuple s] = pure (.native s.toNested) := by
  have hcall : Expr.eval (t.world w) [("tuple", .tuple s)]
      (.method (.var "tuple") "into_inner" []) = (t.world w).own "into_inner" [.tuple s] :=
    eval_method rfl (evalEach_vars []) "into_inner"
  exact hcall.trans (t.own_into_inner w s)

/-- What is drawn is a tuple of the language, and it is converted. -/
theorem run_drawMethod :
    t.drawMethod.run (t.world w) [.source] =
      (fun x => .tuple (Tuple.ofNested x)) <$> w.draw t.arity := by
  have hdraw : Expr.eval (t.world w) [("g", .source)]
      (.call (.ofTrait (.native t.types) testTrait "arbitrary") [.var "g"]) =
        Datum.native <$> w.draw t.arity := by
    simp [testTrait, Env.get, Datum.apply, world]
  refine (eval_call_ofSelf "from" _).trans ?_
  rw [Expr.evalEach, Expr.evalEach]
  change Expr.eval (t.world w) [("g", .source)] _ >>= _ >>= _ = _
  rw [hdraw]
  simp [own_from]

/-- The tuple is converted, what it is made smaller to is converted back. -/
theorem run_shrinkMethod :
    shrinkMethod.run (t.world w) [.tuple s] =
      pure (.items ((s.shrinkBy w.shrink).map (Datum.tuple ·))) := by
  have hinner : Expr.eval (t.world w) [("self", .tuple s)]
      (.method (.call (.known ["core", "clone", "Clone", "clone"]) [.self]) "into_inner" []) =
        pure (.native s.toNested) := by
    rw [← t.own_into_inner w s]
    simp [Expr.known, Expr.self, Env.get, Path.datum, Datum.apply]
    rfl
  have hnative : (t.world w).shrink s.toNested = w.shrink s.toNested := rfl
  change Expr.eval (t.world w) [("self", .tuple s)] _ >>= _ = _
  rw [hinner, pure_bind, Stmt.eval]
  simp [shrinkMethod, Expr.known, Expr.ofSelf, Env.get, Path.datum, Datum.apply, Datum.method,
    hnative, Function.comp_def, own_from, Tuple.shrinkBy]

end Conversions

end Polyad.Template
