import Polyad.Proofs.Family.Census
/-!
What a higher ceiling changes. Nothing that was generated goes away or moves: growth
by one slot appears at the arity that was the largest, further joins appear behind
those there were, and the arities above follow.
-/

namespace Polyad

open Code

namespace Template

/-- The same arity under another ceiling. -/
def under (t : Template) (ceiling : Nat) : Template :=
  { t with ceiling }

/-- Growth by one slot where a higher ceiling makes room for it. -/
def newPushItems (t : Template) (ceiling : Nat) : List Item :=
  if t.arity = t.ceiling ∧ t.ceiling < ceiling then
    [.methods (Param.free t.params) t.type [t.pushFront, t.pushBack]]
  else []

/-- The joins that a higher ceiling makes room for. -/
def newJoinItems (t : Template) (ceiling : Nat) : List Item :=
  (List.range' (t.ceiling - t.arity + 1) (ceiling - t.ceiling)).map t.joinItem

/-- How the items of an arity are found again among those under a higher ceiling. -/
structure Widened (t : Template) (ceiling : Nat) (items wider : List Item) : Prop where
  kept : items.Sublist wider
  tokens : (items.map Item.tokens).Sublist (wider.map Item.tokens)
  /-- Nothing else is new: growth by one slot, and joins at the end. -/
  added : ∃ front back, items = front ++ back ∧
    wider = front ++ t.newPushItems ceiling ++ back ++ t.newJoinItems ceiling
  /-- The growth that is new is at both ends, and only at what was the largest arity. -/
  growth : (t.newPushItems ceiling).flatMap Item.methodNames =
    if t.arity = t.ceiling ∧ t.ceiling < ceiling then
      [(t.arity, "prepend"), (t.arity, "append")]
    else []
  joins : ∀ m, (t.arity, m) ∈ (t.newJoinItems ceiling).filterMap Item.joined? ↔
    t.ceiling - t.arity < m ∧ m ≤ ceiling - t.arity
  initial : t.arity < t.ceiling → items <+: wider

variable {t : Template} {ceiling : Nat}

theorem pushItems_under (hfits : t.arity ≤ t.ceiling) (hraise : t.ceiling ≤ ceiling) :
    (t.under ceiling).pushItems = t.pushItems ++ t.newPushItems ceiling := by
  have hold : t.pushItems = if t.ceiling ≤ t.arity then [] else
      [.methods (Param.free t.params) t.type [t.pushFront, t.pushBack]] := rfl
  have hnew : (t.under ceiling).pushItems = if ceiling ≤ t.arity then [] else
      [.methods (Param.free t.params) t.type [t.pushFront, t.pushBack]] := rfl
  rw [hold, hnew, newPushItems]
  by_cases hroom : t.arity < t.ceiling
  · rw [if_neg (by omega), if_neg (by omega), if_neg (by omega), List.append_nil]
  · rw [if_pos (by omega : t.ceiling ≤ t.arity), List.nil_append]
    by_cases hhigher : t.ceiling < ceiling
    · rw [if_neg (by omega), if_pos (by omega)]
    · rw [if_pos (by omega), if_neg (by omega)]

theorem joinItems_under (hfits : t.arity ≤ t.ceiling) (hraise : t.ceiling ≤ ceiling) :
    (List.range (ceiling - t.arity + 1)).map (t.under ceiling).joinItem =
      (List.range (t.ceiling - t.arity + 1)).map t.joinItem ++ t.newJoinItems ceiling := by
  have hsame : (t.under ceiling).joinItem = t.joinItem := rfl
  have hrange : List.range (ceiling - t.arity + 1) =
      List.range (t.ceiling - t.arity + 1) ++
        List.range' (t.ceiling - t.arity + 1) (ceiling - t.ceiling) := by
    have happend := List.range'_append_1 (s := 0) (m := t.ceiling - t.arity + 1)
      (n := ceiling - t.ceiling)
    have hlength : t.ceiling - t.arity + 1 + (ceiling - t.ceiling) = ceiling - t.arity + 1 := by
      omega
    rw [Nat.zero_add, hlength] at happend
    rw [List.range_eq_range', List.range_eq_range', happend]
  rw [hsame, hrange, List.map_append, newJoinItems]

/-- The items that do not depend on the ceiling, growth and joins of the lower ceiling
    each stand in front of what a higher one adds to them. -/
theorem boundedItems_under (hfits : t.arity ≤ t.ceiling) (hraise : t.ceiling ≤ ceiling) :
    (t.under ceiling).boundedItems =
      t.fixedItems ++ t.pushItems ++ t.newPushItems ceiling ++
        (List.range (t.ceiling - t.arity + 1)).map t.joinItem ++ t.newJoinItems ceiling := by
  have hfixed : (t.under ceiling).fixedItems = t.fixedItems := rfl
  have hjoins := joinItems_under hfits hraise
  rw [boundedItems, hfixed, pushItems_under hfits hraise]
  change _ ++ _ ++ (List.range (ceiling - t.arity + 1)).map _ = _
  rw [hjoins]
  simp only [List.append_assoc]

theorem newPushItems_of_lt (hroom : t.arity < t.ceiling) : t.newPushItems ceiling = [] := by
  rw [newPushItems, if_neg (by omega)]

theorem boundedItems_sublist (hfits : t.arity ≤ t.ceiling) (hraise : t.ceiling ≤ ceiling) :
    t.boundedItems.Sublist (t.under ceiling).boundedItems := by
  rw [boundedItems_under hfits hraise, boundedItems]
  refine List.Sublist.trans ?_ (List.sublist_append_left _ _)
  exact List.Sublist.append (List.sublist_append_left _ _) (List.Sublist.refl _)

theorem boundedItems_prefix (hroom : t.arity < t.ceiling) (hraise : t.ceiling ≤ ceiling) :
    t.boundedItems <+: (t.under ceiling).boundedItems := by
  rw [boundedItems_under (Nat.le_of_lt hroom) hraise, newPushItems_of_lt hroom, List.append_nil]
  exact List.prefix_append _ _

theorem methodNames_newPushItems :
    (t.newPushItems ceiling).flatMap Item.methodNames =
      if t.arity = t.ceiling ∧ t.ceiling < ceiling then
        [(t.arity, "prepend"), (t.arity, "append")]
      else [] := by
  rw [newPushItems]
  split
  · simp [type, Item.methodNames, pushFront, pushBack]
  · rfl

/-- The new joins are those whose right sides were too large before and are not now. -/
theorem mem_joined_newJoinItems (hfits : t.arity ≤ t.ceiling) (hraise : t.ceiling ≤ ceiling)
    (m : Nat) : (t.arity, m) ∈ (t.newJoinItems ceiling).filterMap Item.joined? ↔
      t.ceiling - t.arity < m ∧ m ≤ ceiling - t.arity := by
  simp only [newJoinItems, List.filterMap_map, Function.comp_def, joined?_joinItem, List.filterMap_eq_map',
    List.mem_map, List.mem_range'_1, Prod.mk.injEq, true_and, exists_eq_right]
  omega

theorem widened_boundedItems (hfits : t.arity ≤ t.ceiling) (hraise : t.ceiling ≤ ceiling) :
    Widened t ceiling t.boundedItems (t.under ceiling).boundedItems where
  kept := boundedItems_sublist hfits hraise
  tokens := (boundedItems_sublist hfits hraise).map Item.tokens
  added := ⟨_, _, rfl, boundedItems_under hfits hraise⟩
  growth := methodNames_newPushItems
  joins := mem_joined_newJoinItems hfits hraise
  initial hroom := boundedItems_prefix hroom hraise

end Template

namespace Family

theorem members_sublist (home : List Token) {low high : Nat} (hraise : low ≤ high) :
    (members home low).Sublist (members home high) := by
  have hrange : (List.range (low + 1)).Sublist (List.range (high + 1)) :=
    List.range_sublist.mpr (Nat.succ_le_succ hraise)
  have hpoint : ∀ arity ∈ List.range (low + 1), (Template.mk arity low home).boundedItems.Sublist
      (Template.mk arity high home).boundedItems := by
    intro arity harity
    have hfits : arity ≤ low := Nat.le_of_lt_succ (List.mem_range.mp harity)
    exact Template.boundedItems_sublist (t := ⟨arity, low, home⟩) hfits hraise
  exact (List.Sublist.flatMap_right _ hpoint).trans (hrange.flatMap _)

/-- Under a higher ceiling everything that an arity had is generated again, and so is
    the whole family but the constant that names its ceiling. -/
theorem raising_ceiling_only_adds (home : List Token) {n low high : Nat} (hfits : n ≤ low)
    (hraise : low ≤ high) :
    (∃ items wider, (Template.mk n low home).items = .ok items ∧
      (Template.mk n high home).items = .ok wider ∧
      Template.Widened (Template.mk n low home) high items wider) ∧
    ∃ smaller larger, Family.items home low = .ok (ceilingItem low :: smaller) ∧
      Family.items home high = .ok (ceilingItem high :: larger) ∧ smaller.Sublist larger := by
  have hwider : n ≤ high := Nat.le_trans hfits hraise
  refine ⟨⟨_, _, Template.items_eq _ hfits, Template.items_eq _ hwider, ?_⟩, ?_⟩
  · exact Template.widened_boundedItems (t := ⟨n, low, home⟩) hfits hraise
  · exact ⟨_, _, items_eq_ok home low, items_eq_ok home high, members_sublist home hraise⟩

/-- The largest arity of a family of pairs, in a family of arities up to four. -/
theorem raising_ceiling_only_adds_pairs :
    2 ≤ 2 ∧ 2 ≤ 4 ∧
    (∃ items wider, (Template.mk 2 2 (words ["crate"])).items = .ok items ∧
      (Template.mk 2 4 (words ["crate"])).items = .ok wider ∧
      Template.Widened (Template.mk 2 2 (words ["crate"])) 4 items wider) ∧
    ∃ smaller larger, Family.items (words ["crate"]) 2 = .ok (ceilingItem 2 :: smaller) ∧
      Family.items (words ["crate"]) 4 = .ok (ceilingItem 4 :: larger) ∧
      smaller.Sublist larger :=
  ⟨by decide, by decide, raising_ceiling_only_adds (words ["crate"]) (by decide) (by decide)⟩

end Family

end Polyad
