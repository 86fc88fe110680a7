import Mathlib.Order.Compare
/-!
Things that may be incomparable, even with themselves: the laws that their
equality and their order keep all the same.
-/

namespace Polyad

universe u

/-- The laws of an equality and an order of things that may be incomparable.
    Neither a thing's being equal to itself nor any comparability is asked for. -/
structure PartialLaws {α : Type u} (eq : α → α → Bool) (cmp : α → α → Option Ordering) :
    Prop where
  eq_iff : ∀ a b, eq a b = true ↔ cmp a b = some .eq
  swap : ∀ a b, cmp b a = (cmp a b).map Ordering.swap
  eq_trans : ∀ a b c, cmp a b = some .eq → cmp b c = some .eq → cmp a c = some .eq
  lt_trans : ∀ a b c, cmp a b = some .lt → cmp b c = some .lt → cmp a c = some .lt
  lt_of_lt_of_eq : ∀ a b c, cmp a b = some .lt → cmp b c = some .eq → cmp a c = some .lt
  lt_of_eq_of_lt : ∀ a b c, cmp a b = some .eq → cmp b c = some .lt → cmp a c = some .lt

namespace PartialLaws

variable {α : Type u} {eq : α → α → Bool} {cmp : α → α → Option Ordering}

theorem eq_symm (hlaws : PartialLaws eq cmp) (a b : α) : eq a b = eq b a := by
  rw [Bool.eq_iff_iff, hlaws.eq_iff, hlaws.eq_iff, hlaws.swap b a]
  cases hanswer : cmp b a with
  | none => simp
  | some answer => cases answer <;> simp

/-- A thing is equal to itself or not comparable with itself. -/
theorem cmp_self (hlaws : PartialLaws eq cmp) (a : α) (hself : eq a a = false) :
    cmp a a = none := by
  have hswap := hlaws.swap a a
  have hne : cmp a a ≠ some .eq := fun heq => by simp [(hlaws.eq_iff a a).mpr heq] at hself
  cases hanswer : cmp a a with
  | none => rfl
  | some answer => cases answer <;> simp_all

/-- Two answers in a row of which none is `gt` give a third one. -/
theorem chain (hlaws : PartialLaws eq cmp) {a b c : α} {ab bc : Ordering} (hab : ab ≠ .gt)
    (hbc : bc ≠ .gt) (hcmp : cmp a b = some ab) (hcmp' : cmp b c = some bc) :
    cmp a c = some (ab.then bc) := by
  cases ab with
  | gt => exact absurd rfl hab
  | lt =>
    cases bc with
    | gt => exact absurd rfl hbc
    | lt => exact hlaws.lt_trans a b c hcmp hcmp'
    | eq => exact hlaws.lt_of_lt_of_eq a b c hcmp hcmp'
  | eq =>
    cases bc with
    | gt => exact absurd rfl hbc
    | lt => exact hlaws.lt_of_eq_of_lt a b c hcmp hcmp'
    | eq => exact hlaws.eq_trans a b c hcmp hcmp'

end PartialLaws

section

variable {α κ : Type} {place : α → Option κ} {order : κ → κ → Ordering}
  {cmp : α → α → Option Ordering}

/-- Two answers in a row lead to a third one where they do so for the places. -/
theorem chain_of_place (hcmp : ∀ a b, cmp a b = (place a).bind fun p => (place b).map (order p))
    {ab bc ac : Ordering} (horder : ∀ p q r, order p q = ab → order q r = bc → order p r = ac)
    (a b c : α) (hab : cmp a b = some ab) (hbc : cmp b c = some bc) : cmp a c = some ac := by
  simp only [hcmp, Option.bind_eq_some_iff, Option.map_eq_some_iff] at hab hbc ⊢
  obtain ⟨p, hp, q, hq, hpq⟩ := hab
  obtain ⟨q', hq', r, hr, hqr⟩ := hbc
  obtain rfl : q = q' := Option.some.inj (hq.symm.trans hq')
  exact ⟨p, hp, r, hr, horder p q r hpq hqr⟩

/-- Things that compare by their places in a total order, if both have one,
    keep the laws. -/
theorem PartialLaws.of_place [Std.TransCmp order] {eq : α → α → Bool}
    (heq : ∀ a b, eq a b = true ↔ cmp a b = some .eq)
    (hcmp : ∀ a b, cmp a b = (place a).bind fun p => (place b).map (order p)) :
    PartialLaws eq cmp where
  eq_iff := heq
  swap a b := by
    rw [hcmp, hcmp]
    cases place a <;> cases place b <;> simp
    exact Std.OrientedCmp.eq_swap
  eq_trans := chain_of_place hcmp fun _ _ _ => Std.TransCmp.eq_trans
  lt_trans := chain_of_place hcmp fun _ _ _ => Std.TransCmp.lt_trans
  lt_of_lt_of_eq := chain_of_place hcmp fun _ _ _ => Std.TransCmp.lt_of_lt_of_eq
  lt_of_eq_of_lt := chain_of_place hcmp fun _ _ _ => Std.TransCmp.lt_of_eq_of_lt

end

end Polyad
