import Polyad.Family.Expansion
import Polyad.Proofs.Family.Census
/-!
What a package gets when it asks for a family. The ceiling decides whether there is one;
then only the name that the package has for the family can be in the way.
-/

namespace Polyad

open Code

namespace Code.Item

/-- The ceiling that an item names. -/
def ceiling? : Item → Option Nat
  | maxArity _ ceiling => some ceiling
  | _ => none

end Code.Item

theorem Template.ceiling_boundedItems (t : Template) :
    t.boundedItems.filterMap Item.ceiling? = [] := by
  have hempty : t.emptyItems.filterMap Item.ceiling? = [] := by
    rw [emptyItems]
    split <;> rfl
  have hpush : t.pushItems.filterMap Item.ceiling? = [] := by
    rw [pushItems]
    split <;> rfl
  have hfixed : t.fixedItems.filterMap Item.ceiling? = [] := by
    simp only [fixedItems, List.filterMap_append, hempty]
    rfl
  have hjoin (m : Nat) : (t.joinItem m).ceiling? = none := rfl
  simp [boundedItems, hfixed, hpush, List.filterMap_map, hjoin]

namespace Family

variable {manifest : Option Manifest} {ceiling : Nat}

/-- A family names its ceiling once. -/
theorem ceiling_items (home : List Token) (ceiling : Nat) :
    (ceilingItem ceiling :: members home ceiling).filterMap Item.ceiling? = [ceiling] := by
  have hceiling : (ceilingItem ceiling).ceiling? = some ceiling := rfl
  rw [List.filterMap_cons_some hceiling, members, List.filterMap_flatMap]
  simp [Template.ceiling_boundedItems]

theorem check_eq (ceiling : Nat) :
    Ceiling.check ceiling =
      if ceiling = 0 then .error .zero
      else if 8 < ceiling then .error (.tooLarge ceiling)
      else .ok ceiling := rfl

theorem expand_zero : expand manifest 0 = .error (.ceiling .zero) := rfl

theorem expand_of_large (hlarge : 8 < ceiling) :
    expand manifest ceiling = .error (.ceiling (.tooLarge ceiling)) := by
  have hcheck : Ceiling.check ceiling = .error (.tooLarge ceiling) := by
    rw [check_eq, if_neg (by omega), if_pos hlarge]
  rw [expand, hcheck]
  rfl

theorem expand_of_fits (hlow : 0 < ceiling) (hhigh : ceiling ≤ 8) :
    expand manifest ceiling =
      ((Manifest.home manifest).path.mapError .home).map fun home =>
        ceilingItem ceiling :: members home ceiling := by
  have hcheck : Ceiling.check ceiling = .ok ceiling := by
    rw [check_eq, if_neg (by omega), if_neg (by omega)]
  rw [expand, hcheck]
  cases hpath : (Manifest.home manifest).path with
  | error reason => rfl
  | ok home =>
    have hitems := items_eq_ok home ceiling
    change (items home ceiling).mapError Failure.overflow = _
    rw [hitems]
    rfl

/-- How a request for a family ends. -/
structure Answered (manifest : Option Manifest) (ceiling : Nat) : Prop where
  zero : expand manifest ceiling = .error (.ceiling .zero) ↔ ceiling = 0
  tooLarge : ∀ n, expand manifest ceiling = .error (.ceiling (.tooLarge n)) ↔
    n = ceiling ∧ 8 < ceiling
  home : ∀ reason, expand manifest ceiling = .error (.home reason) ↔
    (0 < ceiling ∧ ceiling ≤ 8) ∧ (Manifest.home manifest).path = .error reason
  overflow : ∀ reason, expand manifest ceiling ≠ .error (.overflow reason)
  ok : ∀ items, expand manifest ceiling = .ok items ↔
    (0 < ceiling ∧ ceiling ≤ 8) ∧ ∃ home, (Manifest.home manifest).path = .ok home ∧
      items = ceilingItem ceiling :: members home ceiling

theorem answered (manifest : Option Manifest) (ceiling : Nat) : Answered manifest ceiling := by
  obtain rfl | hpositive := Nat.eq_zero_or_pos ceiling
  · constructor <;> simp [expand_zero]
  · have hzero : ceiling ≠ 0 := by omega
    by_cases hlarge : 8 < ceiling
    · have hunfit : ¬ ceiling ≤ 8 := by omega
      constructor <;> simp [expand_of_large hlarge, hzero, hlarge, hunfit, eq_comm]
    · have hfits : ceiling ≤ 8 := by omega
      cases hpath : (Manifest.home manifest).path with
      | error reason =>
        have hexpand : expand manifest ceiling = .error (.home reason) := by
          rw [expand_of_fits hpositive hfits, hpath]
          rfl
        constructor <;> simp [hexpand, hpath, hzero, hlarge, hpositive, hfits]
      | ok home =>
        have hexpand : expand manifest ceiling = .ok (ceilingItem ceiling :: members home ceiling) := by
          rw [expand_of_fits hpositive hfits, hpath]
          rfl
        constructor <;> simp [hexpand, hpath, hzero, hlarge, hpositive, hfits, eq_comm]

end Family

end Polyad
