import Polyad.Proofs.Family.Evaluation
import Polyad.Family.Texts
import Polyad.Proofs.Text.NativeForm
import Polyad.Traced
/-!
What the methods of one arity write that render it. The events of rendering are the
characters that are written, and together they are the text of the tuple.
-/

namespace Polyad

/-- A separator stands in front of every part but the first one. -/
theorem Layout.flatMap_zipIdx_eq_commaSeparated (parts : List (List Char)) :
    (parts.zipIdx.flatMap fun (part, k) => (if k = 0 then [] else [',', ' ']) ++ part) =
      commaSeparated parts := by
  have hlater (rest : List (List Char)) (k : Nat) :
      ((rest.zipIdx (k + 1)).flatMap fun (part, k) =>
          (if k = 0 then [] else [',', ' ']) ++ part) =
        rest.flatMap fun part => [',', ' '] ++ part := by
    induction rest generalizing k with
    | nil => rfl
    | cons part rest ih => simp [ih]
  cases parts with
  | nil => rfl
  | cons part rest =>
    rw [commaSeparated_cons, ← hlater rest 0]
    rfl

theorem Traced.map_mk {ε β γ : Type} (f : β → γ) (value : β) (events : List ε) :
    f <$> (⟨value, events⟩ : Traced ε β) = ⟨f value, events⟩ := by
  simp [Functor.map]

namespace Template

open Code

variable {α : Type} {w : World (Traced Char) α} {env : Env (Traced Char) α}

/-- A statement writes a text and goes on. -/
theorem eval_run {e : Expr} {text : List Char} (heval : e.eval w env = ⟨.ok .unit, text⟩)
    (result : Expr) (rest : List Stmt) :
    Stmt.eval w result env (.run (.unwrapped e) :: rest) =
      ⟨(Stmt.eval w result env rest).value, text ++ (Stmt.eval w result env rest).events⟩ := by
  rw [Stmt.eval, heval]
  rfl

theorem eval_write (hwrite : ∀ text, w.write text = ⟨(), text.toList⟩)
    (hf : env.get "f" = .formatter) (text : String) :
    (write text).eval w env = ⟨.ok .unit, text.toList⟩ := by
  have hmethod : (write text).eval w env = (fun _ => .ok .unit) <$> w.write text := by
    simp [write, hf, Datum.method]
  rw [hmethod, hwrite, Traced.map_mk]

/-- A slot has a text for users. -/
def Shows (w : World (Traced Char) α) (env : Env (Traced Char) α) (name : String)
    (text : List Char) : Prop :=
  ∃ value, (Expr.slot name).eval w env = pure (.slot value) ∧ w.display value = ⟨(), text⟩

theorem eval_display (hf : env.get "f" = .formatter) {name : String} {text : List Char}
    (hshows : Shows w env name text) :
    (Expr.call (.known ["core", "fmt", "Display", "fmt"])
      [.ref (.slot name), .var "f"]).eval w env = ⟨.ok .unit, text⟩ := by
  obtain ⟨value, hslot, hdisplay⟩ := hshows
  have hcall : (Expr.call (.known ["core", "fmt", "Display", "fmt"])
      [.ref (.slot name), .var "f"]).eval w env = (fun _ => .ok .unit) <$> w.display value := by
    simp [Expr.known, hf, hslot, Path.datum, Datum.apply]
  rw [hcall, hdisplay, Traced.map_mk]

/-- The slots are written one after the other, with separators between them. -/
theorem eval_displayEach (hwrite : ∀ text, w.write text = ⟨(), text.toList⟩)
    (hf : env.get "f" = .formatter) {names : List String} {parts : List (List Char)}
    (hshows : List.Forall₂ (Shows w env) names parts) (first : Nat) (result : Expr) :
    Stmt.eval w result env ((names.zipIdx first).flatMap fun (field, k) =>
        (if k = 0 then [] else [Stmt.run (.unwrapped (write ", "))]) ++
          [.run (.unwrapped (.call (.known ["core", "fmt", "Display", "fmt"])
            [.ref (.slot field), .var "f"]))]) =
      ⟨(result.eval w env).value,
        ((parts.zipIdx first).flatMap fun (part, k) =>
          (if k = 0 then [] else [',', ' ']) ++ part) ++ (result.eval w env).events⟩ := by
  induction hshows generalizing first with
  | nil => rfl
  | @cons name part names parts hname hrest ih =>
    simp only [List.zipIdx_cons, List.flatMap_cons]
    cases first with
    | zero =>
      rw [if_pos rfl, if_pos rfl, List.nil_append, List.singleton_append,
        eval_run (eval_display hf hname), ih, List.nil_append, List.append_assoc]
    | succ first =>
      rw [if_neg first.succ_ne_zero, if_neg first.succ_ne_zero, List.singleton_append,
        List.cons_append, List.singleton_append, eval_run (eval_write hwrite hf ", "),
        eval_run (eval_display hf hname), ih]
      simp

/-- Debugging hands the slots to a builder, the first one first. -/
theorem eval_debugEach {names : List String} {values : List α}
    (hslots : List.Forall₂ (fun name value => (Expr.slot name).eval w env = pure (.slot value))
      names values) {e : Expr} {before : List α} (heval : e.eval w env = pure (.builder "" before)) :
    (names.foldl (fun e field => .method e "field" [.ref (.slot field)]) e).eval w env =
      pure (.builder "" (before ++ values)) := by
  induction hslots generalizing e before with
  | nil => rwa [List.append_nil]
  | @cons name value names values hname hrest ih =>
    have hfield : (Expr.method e "field" [.ref (.slot name)]).eval w env =
        pure (.builder "" (before ++ [value])) := by
      simp [heval, hname, Datum.method]
    rw [List.foldl_cons, ih hfield, List.append_assoc]
    rfl

theorem eval_slots (t : Template) {s : Tuple α t.arity} (hself : env.get "self" = .tuple s) :
    List.Forall₂ (fun name value => (Expr.slot name).eval w env = pure (.slot value)) t.fields
      s.toList :=
  List.forall₂_map_left_iff.mp (Expr.eval_fields hself)

section Values

variable (t : Template) {w : World (Traced Char) Value} (flags : Flags)
  (hwrite : ∀ text, w.write text = ⟨(), text.toList⟩) (s : Tuple Value t.arity)

theorem forall₂_of_displaySlots? {n : Nat} {s : Tuple Value n} {parts : List (List Char)}
    (hparts : Value.displaySlots? flags s = some parts) :
    List.Forall₂ (fun value text => Value.display? flags value = some text) s.toList parts := by
  induction s generalizing parts with
  | nil =>
    cases hparts
    exact .nil
  | cons value s ih =>
    rw [Value.displaySlots?] at hparts
    split at hparts
    · next hfirst hrest =>
      cases hparts
      exact .cons hfirst (ih hrest)
    · cases hparts

include hwrite

/-- A tuple whose slots are written as their text for users is written as its own. -/
theorem run_displayMethod
    (hdisplay : ∀ value text, Value.display? flags value = some text → w.display value = ⟨(), text⟩)
    {text : List Char} (htext : s.display? flags = some text) :
    t.displayMethod.run w [.tuple s, .formatter] = ⟨.ok .unit, text⟩ := by
  let env : Env (Traced Char) Value := [("self", .tuple s), ("f", .formatter)]
  have hself : env.get "self" = .tuple s := rfl
  have hf : env.get "f" = .formatter := rfl
  obtain ⟨parts, hparts, rfl⟩ := Option.map_eq_some_iff.mp htext
  have hshows : List.Forall₂ (Shows w env) t.fields parts :=
    forall₂_comp (t.eval_slots hself) (forall₂_of_displaySlots? flags hparts)
      fun _ value text hslot hvalue => ⟨value, hslot, hdisplay value text hvalue⟩
  change Stmt.eval w (write ")") env (.run (.unwrapped (write "(")) :: t.displaySlots) = _
  rw [eval_run (eval_write hwrite hf "("), displaySlots, eval_displayEach hwrite hf hshows,
    eval_write hwrite hf, Layout.flatMap_zipIdx_eq_commaSeparated]
  simp

/-- A tuple whose builder lays out the fields is written as its text for debugging. -/
theorem run_debugMethod
    (hfinish : ∀ name fields, w.finish name fields =
      ⟨(), Layout.tuple flags.alternate name.toList (fields.map (Value.debug flags))⟩) :
    t.debugMethod.run w [.tuple s, .formatter] = ⟨.ok .unit, s.debug flags⟩ := by
  let env : Env (Traced Char) Value := [("self", .tuple s), ("f", .formatter)]
  have hself : env.get "self" = .tuple s := rfl
  have hf : env.get "f" = .formatter := rfl
  have hslots := t.eval_slots (w := w) hself
  have hbuilder : (Expr.method (.var "f") "debug_tuple" [.text ""]).eval w env =
      pure (.builder "" []) := rfl
  obtain ⟨n, ceiling, home⟩ := t
  cases n with
  | zero => exact eval_write hwrite hf "()"
  | succ n =>
    change (Expr.method _ "finish" []).eval w env = _
    rw [Expr.eval, eval_debugEach hslots hbuilder, Expr.evalEach, pure_bind, pure_bind,
      List.nil_append, Datum.method, hfinish, Traced.map_mk, Tuple.debug, Value.debug,
      Value.debugSlots_eq_map]
    rfl

end Values

end Template

end Polyad
