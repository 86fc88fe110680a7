import Polyad.Proofs.Family.Meaning
import Polyad.Tuple.Order
/-!
What the orders of one arity compute. A chain of comparisons makes each of them only while
all before it found no difference, and the two orders are chains over the slots of two
tuples.
-/

namespace Polyad

variable {m : Type → Type} [Monad m] {α : Type}

/-- Go on with a comparison after another one, if that found no difference. -/
def Tuple.thenCompare (first next : m Ordering) : m Ordering := do
  let answer ← first
  if answer = .eq then next else pure answer

/-- Comparing slot after slot is a chain of the comparisons of the slots. -/
theorem Tuple.foldl_thenCompare [LawfulMonad m] {n : Nat} (cmps : Tuple (α → α → m Ordering) n)
    (a b : Tuple α n) (first : m Ordering) :
    (mapEach (mapEach cmps a) b).toList.foldl thenCompare first =
      first >>= fun answer => compareFromM answer cmps a b := by
  induction cmps, a, b using induction₃ generalizing first with
  | nil => simp [mapEach, compareFromM]
  | cons n cmp x y cmps a b ih =>
    simp only [mapEach, toList_cons, List.foldl_cons, ih, thenCompare, compareFromM, bind_assoc]
    refine bind_congr fun answer => ?_
    split <;> rfl

namespace Template

open Code

variable {w : World m α} {env : Env m α} [LawfulMonad m]

/-- An expression makes a comparison. -/
def Compares (w : World m α) (env : Env m α) (e : Expr) (cmp : m Ordering) : Prop :=
  e.eval w env = Datum.ordering <$> cmp

theorem compares_then_with {e next : Expr} {first second : m Ordering}
    (hfirst : Compares w env e first) (hnext : Compares w env next second) :
    Compares w env (.method e "then_with" [.deferred next]) (Tuple.thenCompare first second) := by
  have hanswer (answer : Ordering) :
      (Datum.ordering answer : Datum m α).method w "then_with"
          [.deferred (Datum.ordering? <$> next.eval w env)] =
        Datum.ordering <$> (if answer = .eq then second else pure answer) := by
    rw [hnext, Datum.method]
    split <;> simp [Datum.ordering?, Datum.ofOrdering?]
  rw [Compares] at hfirst
  simp [Compares, Tuple.thenCompare, hfirst, hanswer]

theorem compares_chain {es : List Expr} {cmps : List (m Ordering)}
    (hcompares : List.Forall₂ (Compares w env) es cmps) :
    Compares w env (chain es) (cmps.foldl Tuple.thenCompare (pure .eq)) := by
  have hfrom {e : Expr} {first : m Ordering} (hfirst : Compares w env e first) :
      Compares w env
        (es.foldl (fun e comparison => .method e "then_with" [.deferred comparison]) e)
        (cmps.foldl Tuple.thenCompare first) := by
    induction hcompares generalizing e first with
    | nil => exact hfirst
    | cons hnext hrest ih => exact ih (compares_then_with hfirst hnext)
  exact hfrom (by rw [Compares, map_pure]; rfl)

variable (t : Template) {a b : Tuple α t.arity}

/-- A comparison is asked about the two slots of a pair. -/
theorem compares_slotPair {e : Expr} {f : Datum m α} {cmp : α → α → m Ordering}
    (ha : env.get "a" = .tuple a) (hb : env.get "b" = .tuple b) (heval : e.eval w env = pure f)
    (happly : ∀ x y, f.apply w [.slot x, .slot y] = Datum.ordering <$> cmp x y)
    (k : Fin t.arity) :
    Compares w env (.call e (slotPair (numberedName "t" (k.val + 1))))
      (cmp (a.get k) (b.get k)) := by
  have hslots : Expr.evalEach w env (slotPair (numberedName "t" (k.val + 1))) =
      pure [.slot (a.get k), .slot (b.get k)] := by
    simp [slotPair, ha, hb, Datum.field_tuple]
  rw [Compares, Expr.eval, heval, pure_bind, hslots, pure_bind, happly]

/-- A chain with the comparison of each slot in its place. -/
theorem compares_slots {n : Nat} {es : List Expr} {cmps : Tuple (α → α → m Ordering) n}
    {a b : Tuple α n} (hlength : es.length = n)
    (hes : ∀ (k : Fin n) (hk : k.val < es.length),
      Compares w env es[k.val] (cmps.get k (a.get k) (b.get k))) :
    Compares w env (chain es) (Tuple.comparatorM cmps a b) := by
  have hslots : List.Forall₂ (Compares w env) es
      (Tuple.mapEach (Tuple.mapEach cmps a) b).toList := by
    refine List.forall₂_iff_get.mpr ⟨by simp [hlength], fun i hleft hright => ?_⟩
    have hi : i < n := hlength ▸ hleft
    simpa [Tuple.getElem_toList] using hes ⟨i, hi⟩ hleft
  have hchain := compares_chain hslots
  rwa [Tuple.foldl_thenCompare, pure_bind] at hchain

/-- The natural order asks the natural order of the slots. -/
theorem run_naturalMethod (a b : Tuple α t.arity) :
    t.naturalMethod.run w [.tuple a, .tuple b] =
      Datum.ordering <$> Tuple.comparatorM (Tuple.replicate t.arity w.compare) a b := by
  have henv : (List.zipWith Pattern.values t.naturalMethod.patterns
      [.tuple a, .tuple b]).flatten = [("a", Datum.tuple (m := m) a), ("b", .tuple b)] := rfl
  rw [Method.run, henv]
  refine compares_slots (by simp [fields]) fun k hk => ?_
  have hslots : Compares w [("a", .tuple a), ("b", .tuple b)]
      (.call (.known ["core", "cmp", "Ord", "cmp"]) (slotPair (numberedName "t" (k.val + 1))))
      (w.compare (a.get k) (b.get k)) :=
    t.compares_slotPair rfl rfl rfl (fun _ _ => rfl) k
  simpa [fields, series, Tuple.get_replicate] using hslots

/-- The comparisons that a method was given are asked, each one about the slots in its own
    place. -/
theorem compares_given {a b : Tuple α t.arity} {cmps : Tuple (α → α → m Ordering) t.arity}
    (ha : env.get "a" = .tuple a) (hb : env.get "b" = .tuple b)
    (hcmps : ∀ k : Fin t.arity,
      env.get (numberedName "c" (k.val + 1)) = .comparison (cmps.get k)) :
    Compares w env (chain (List.zipWith (fun c field => .call (.var c) (slotPair field))
      (series "c" t.arity) t.fields)) (Tuple.comparatorM cmps a b) := by
  refine compares_slots (by simp [fields]) fun k hk => ?_
  have hcomparison : (Expr.var (numberedName "c" (k.val + 1))).eval w env =
      pure (.comparison (cmps.get k)) := by
    rw [Expr.eval, hcmps]
  have hslots := t.compares_slotPair ha hb hcomparison (fun _ _ => rfl) k
  simpa [fields, series] using hslots

/-- The order that is built asks the comparisons that it was built from. -/
theorem run_comparatorMethod (cmps : Tuple (α → α → m Ordering) t.arity) :
    ∃ order : (n : Nat) → Tuple α n → Tuple α n → m (Option Ordering),
      t.comparatorMethod.run w (cmps.toList.map .comparison) = pure (.order order) ∧
        ∀ a b : Tuple α t.arity, order t.arity a b = some <$> Tuple.comparatorM cmps a b := by
  have hparams : t.comparatorMethod.params =
      ((series "c" t.arity).map .name).zip ((series "C" t.arity).map .param) := rfl
  have hrun := Method.run_of_free (w := w) hparams (by simp) rfl (cmps.toList.map .comparison)
  refine ⟨_, hrun.trans (by rw [comparatorMethod, yield, Stmt.eval, Expr.eval]), fun a b => ?_⟩
  have hcmps (k : Fin t.arity) :
      Env.get (("b", .tuple b) :: ("a", .tuple a) ::
          (series "c" t.arity).zip (cmps.toList.map Datum.comparison))
        (numberedName "c" (k.val + 1)) = .comparison (cmps.get k) := by
    have hb := (show Digitless "b" by decide).ne_numberedName "c" (k.val + 1)
    rw [Env.get_cons_of_ne _ _ hb.symm]
    exact Env.get_argument (by decide) _ (by simp) (by simp [Tuple.getElem_toList])
  have hanswer := congrArg (Datum.ordering? <$> ·)
    (t.compares_given (w := w) (a := a) (b := b) rfl rfl hcmps)
  simpa [Datum.ordering?] using hanswer

end Template

end Polyad
