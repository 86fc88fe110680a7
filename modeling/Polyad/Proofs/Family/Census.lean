import Mathlib.Data.List.Flatten
import Mathlib.Data.List.Perm.Basic
import Mathlib.Tactic.Ring
import Polyad.Family.Items
import Polyad.Proofs.Family.Names
/-!
What a family consists of: which types it defines, which pairs of them it can
join, and which methods each of them has. All of it is counted.
-/

namespace Polyad

open Code

namespace Code.Item

/-- The arity of the type that an item defines. -/
def defined? : Item → Option Nat
  | definition _ fields => some fields.length
  | _ => none

/-- The arities on the left and on the right of what an item joins. -/
def joined? : Item → Option (Nat × Nat)
  | implementation _ _ (.path (.below _ ["tuple", "Concat"]) [.tuple right]) (.tuple left) _ =>
    some (left.length, right.length)
  | _ => none

/-- The methods that an item gives to a type of tuples: the arity and the name. -/
def methodNames : Item → List (Nat × String)
  | methods _ (.tuple slots) ms => ms.map fun m => (slots.length, m.name)
  | _ => []

end Code.Item

namespace Template

variable (t : Template)

/-- The names of the methods that are not about one slot. -/
def fixedNames : List String :=
  ["of", "into_inner", "as_ref"] ++ (if t.arity = 0 then [] else ["empty"]) ++
    ["comparator", "compare"] ++
    ["map", "try_map", "map_each", "try_map_each", "apply", "try_apply"] ++
    (if t.ceiling ≤ t.arity then [] else ["prepend", "append"])

/-- The stems of the names of the methods that change one slot. -/
def changeStems : List String :=
  ["update", "remove", "map", "try_map"]

/-- The stems of the names of the methods that are about one slot. -/
def slotStems : List String :=
  "t" :: changeStems

/-- The names of the methods that change the slot at a position. -/
def changeNames (k : Nat) : List String :=
  changeStems.map fun stem => numberedName stem (k + 1)

/-- The names of the methods that are about one slot. -/
def slotNames : List String :=
  (List.range t.arity ×ˢ slotStems).map fun slot => numberedName slot.2 (slot.1 + 1)

theorem defined_boundedItems : t.boundedItems.filterMap Item.defined? = [t.arity] := by
  have hempty : t.emptyItems.filterMap Item.defined? = [] := by
    rw [emptyItems]
    split <;> rfl
  have hpush : t.pushItems.filterMap Item.defined? = [] := by
    rw [pushItems]
    split <;> rfl
  have hfixed : t.fixedItems.filterMap Item.defined? = [t.arity] := by
    simp only [fixedItems, List.filterMap_append, hempty]
    change [(t.fields.zip t.params).length] = [t.arity]
    simp [fields, params]
  have hjoin (m : Nat) : (t.joinItem m).defined? = none := rfl
  simp [boundedItems, hfixed, hpush, List.filterMap_map, hjoin]

theorem joined?_joinItem (m : Nat) : (t.joinItem m).joined? = some (t.arity, m) := by
  simp [joinItem, type, path, Item.joined?]

theorem joined_boundedItems :
    t.boundedItems.filterMap Item.joined? =
      (List.range (t.ceiling - t.arity + 1)).map fun m => (t.arity, m) := by
  have hempty : t.emptyItems.filterMap Item.joined? = [] := by
    rw [emptyItems]
    split <;> rfl
  have hpush : t.pushItems.filterMap Item.joined? = [] := by
    rw [pushItems]
    split <;> rfl
  have hfixed : t.fixedItems.filterMap Item.joined? = [] := by
    simp only [fixedItems, List.filterMap_append, hempty]
    rfl
  simp [boundedItems, hfixed, hpush, List.filterMap_map, joined?_joinItem]

theorem slotNames_perm :
    List.Perm (series "t" t.arity ++ (List.range t.arity).flatMap changeNames) t.slotNames := by
  rw [series, List.map_eq_flatMap]
  refine (List.flatMap_append_perm _ _ _).trans (List.Perm.of_eq ?_)
  simp [slotNames, slotStems, changeNames, SProd.sprod, List.product, List.map_flatMap,
    Function.comp_def]

/-- The names of the methods of an arity in the order in which they stand. -/
theorem methodNames_eq :
    t.boundedItems.flatMap Item.methodNames =
      (["of"] ++ series "t" t.arity ++ ["into_inner", "as_ref"] ++
        (if t.arity = 0 then [] else ["empty"]) ++ ["comparator", "compare"] ++
        (List.range t.arity).flatMap changeNames ++
        ["map", "try_map", "map_each", "try_map_each", "apply", "try_apply"] ++
        (if t.ceiling ≤ t.arity then [] else ["prepend", "append"])).map
          fun name => (t.arity, name) := by
  have haccess : t.accessItem.methodNames =
      (["of"] ++ series "t" t.arity ++ ["into_inner", "as_ref"]).map fun name => (t.arity, name) := by
    simp [accessItem, type, Item.methodNames, numbers, series, readSlot, buildAll, unwrapAll,
      borrowAll, Function.comp_def]
  have hempty : t.emptyItems.flatMap Item.methodNames =
      (if t.arity = 0 then [] else ["empty"]).map fun name => (t.arity, name) := by
    rw [emptyItems]
    split
    · rfl
    · simp [Item.methodNames, emptyTuple]
  have horders : t.orderItems.flatMap Item.methodNames =
      ["comparator", "compare"].map fun name => (t.arity, name) := by
    simp [orderItems, type, Item.methodNames, comparatorMethod, naturalMethod]
  have hslot : t.slotItem.methodNames =
      ((List.range t.arity).flatMap changeNames).map fun name => (t.arity, name) := by
    simp [slotItem, type, Item.methodNames, List.map_flatMap, changeNames, changeStems, setSlot,
      eraseSlot, mapSlot, tryMapSlot]
  have hwhole : t.wholeItem.methodNames =
      ["map", "try_map", "map_each", "try_map_each", "apply", "try_apply"].map
        fun name => (t.arity, name) := by
    simp [wholeItem, type, Item.methodNames, mapAll, tryMapAll, mapEach, tryMapEach, applyAll,
      tryApplyAll]
  have hpush : t.pushItems.flatMap Item.methodNames =
      (if t.ceiling ≤ t.arity then [] else ["prepend", "append"]).map
        fun name => (t.arity, name) := by
    rw [pushItems]
    split
    · rfl
    · simp [type, Item.methodNames, pushFront, pushBack]
  have hjoins : ((List.range (t.ceiling - t.arity + 1)).map t.joinItem).flatMap
      Item.methodNames = [] := by
    rw [List.flatMap_map, List.flatMap_eq_nil_iff]
    exact fun m hm => rfl
  have htype : t.typeItem.methodNames = [] := rfl
  have hmembership : t.membershipItems.flatMap Item.methodNames = [] := rfl
  have hnative : t.nativeItems.flatMap Item.methodNames = [] := rfl
  have htexts : [t.displayItem, t.debugItem, t.testDataItem].flatMap Item.methodNames = [] := rfl
  simp only [boundedItems, fixedItems, List.flatMap_append, List.flatMap_cons, List.flatMap_nil,
    htype, haccess, hempty, hmembership, hnative, htexts, horders, hslot, hwhole, hpush, hjoins,
    List.map_append, List.append_nil, List.nil_append, List.append_assoc]

theorem methodNames_perm :
    List.Perm (t.boundedItems.flatMap Item.methodNames)
      ((t.fixedNames ++ t.slotNames).map fun name => (t.arity, name)) := by
  rw [methodNames_eq]
  refine List.Perm.map _ (List.perm_iff_count.mpr ?_)
  intro name
  have hslots := t.slotNames_perm.count_eq name
  have hof : List.count name ["of", "into_inner", "as_ref"] =
      List.count name ["of"] + List.count name ["into_inner", "as_ref"] := by
    rw [← List.count_append]
    rfl
  simp only [fixedNames, List.count_append, hof] at hslots ⊢
  omega

theorem digitless_of_mem_fixedNames {name : String} (hname : name ∈ t.fixedNames) :
    Digitless name := by
  have hall : ∀ name ∈ t.fixedNames, Digitless name := by
    rw [fixedNames]
    split <;> split <;> decide
  exact hall name hname

/-- There is growth by one slot below the ceiling and nowhere else. -/
theorem growth_mem_fixedNames {name : String} (hname : name ∈ ["prepend", "append"]) :
    name ∈ t.fixedNames ↔ t.arity < t.ceiling := by
  simp only [List.mem_cons, List.not_mem_nil, or_false] at hname
  rw [fixedNames]
  by_cases hfull : t.ceiling ≤ t.arity
  · rw [if_pos hfull]
    refine iff_of_false ?_ (Nat.not_lt.mpr hfull)
    obtain rfl | rfl := hname
    · split <;> decide
    · split <;> decide
  · rw [if_neg hfull]
    refine iff_of_true (List.mem_append_right _ ?_) (Nat.lt_of_not_le hfull)
    obtain rfl | rfl := hname
    · decide
    · decide

theorem empty_mem_fixedNames : "empty" ∈ t.fixedNames ↔ 1 ≤ t.arity := by
  rw [fixedNames]
  by_cases harity : t.arity = 0
  · rw [if_pos harity]
    refine iff_of_false ?_ (by omega)
    split <;> decide
  · rw [if_neg harity]
    refine iff_of_true ?_ (by omega)
    split <;> decide

theorem nodup_fixedNames : t.fixedNames.Nodup := by
  rw [fixedNames]
  split <;> split <;> decide

theorem digitless_of_mem_slotStems {stem : String} (hstem : stem ∈ slotStems) :
    Digitless stem := by
  have hall : ∀ stem ∈ slotStems, Digitless stem := by decide
  exact hall stem hstem

theorem nodup_slotNames : t.slotNames.Nodup := by
  refine List.Nodup.map_on ?_ (List.nodup_range.product (by decide))
  rintro ⟨i, a⟩ hleft ⟨j, b⟩ hright hname
  have ha := digitless_of_mem_slotStems (List.pair_mem_product.mp hleft).2
  have hb := digitless_of_mem_slotStems (List.pair_mem_product.mp hright).2
  have hstem : a = b := stem_eq_of_numberedName_eq ha hb hname
  subst hstem
  have hnumber : i + 1 = j + 1 := numberedName_inj.mp hname
  simpa using hnumber

/-- No name is given to two methods of a type. -/
theorem nodup_names : (t.fixedNames ++ t.slotNames).Nodup := by
  rw [List.nodup_append]
  refine ⟨t.nodup_fixedNames, t.nodup_slotNames, ?_⟩
  intro name hfixed other hslot hsame
  obtain ⟨⟨k, stem⟩, hmem, rfl⟩ := List.mem_map.mp hslot
  exact (t.digitless_of_mem_fixedNames hfixed).ne_numberedName stem (k + 1) hsame

theorem nodup_methodNames : (t.boundedItems.flatMap Item.methodNames).Nodup := by
  rw [t.methodNames_perm.nodup_iff]
  exact t.nodup_names.map fun a b hpair => congrArg Prod.snd hpair

theorem mem_methodNames {pair : Nat × String} :
    pair ∈ t.boundedItems.flatMap Item.methodNames ↔
      pair.1 = t.arity ∧ pair.2 ∈ t.fixedNames ++ t.slotNames := by
  rw [t.methodNames_perm.mem_iff, List.mem_map]
  constructor
  · rintro ⟨other, hother, rfl⟩
    exact ⟨rfl, hother⟩
  · rintro ⟨harity, hother⟩
    exact ⟨pair.2, hother, Prod.ext harity.symm rfl⟩

theorem numberedName_mem_slotNames {stem : String} (hstem : stem ∈ slotStems) (number : Nat) :
    numberedName stem number ∈ t.slotNames ↔ 1 ≤ number ∧ number ≤ t.arity := by
  constructor
  · intro hmem
    obtain ⟨⟨k, other⟩, hslot, hname⟩ := List.mem_map.mp hmem
    obtain ⟨hk, hother⟩ := List.pair_mem_product.mp hslot
    have hsame : other = stem :=
      stem_eq_of_numberedName_eq (digitless_of_mem_slotStems hother)
        (digitless_of_mem_slotStems hstem) hname
    subst hsame
    have hnumber : k + 1 = number := numberedName_inj.mp hname
    have hlt := List.mem_range.mp hk
    omega
  · rintro ⟨hpositive, hle⟩
    refine List.mem_map.mpr ⟨(number - 1, stem), ?_, ?_⟩
    · exact List.pair_mem_product.mpr ⟨List.mem_range.mpr (by omega), hstem⟩
    · exact congrArg (numberedName stem) (by omega)

theorem digitless_not_mem_slotNames {name : String} (hname : Digitless name) :
    name ∉ t.slotNames := by
  intro hmem
  obtain ⟨⟨k, stem⟩, -, hsame⟩ := List.mem_map.mp hmem
  exact hname.ne_numberedName stem (k + 1) hsame.symm

theorem growth_mem_names {name : String} (hname : name ∈ ["prepend", "append"]) :
    name ∈ t.fixedNames ++ t.slotNames ↔ t.arity < t.ceiling := by
  have hdigitless : ∀ name ∈ ["prepend", "append"], Digitless name := by decide
  rw [List.mem_append,
    or_iff_left (t.digitless_not_mem_slotNames (hdigitless name hname)),
    t.growth_mem_fixedNames hname]

theorem numberedName_not_mem_fixedNames (stem : String) (number : Nat) :
    numberedName stem number ∉ t.fixedNames := by
  intro hmem
  exact (t.digitless_of_mem_fixedNames hmem).ne_numberedName stem number rfl

end Template

namespace Family

/-- Every item of a family but its ceiling. -/
def members (home : List Token) (ceiling : Nat) : List Item :=
  (List.range (ceiling + 1)).flatMap fun arity => (Template.mk arity ceiling home).boundedItems

theorem mapM_eq_ok {α β ε : Type} {f : α → Except ε β} {g : α → β} {l : List α}
    (hpoint : ∀ a ∈ l, f a = .ok (g a)) : l.mapM f = .ok (l.map g) := by
  induction l with
  | nil => rfl
  | cons a rest ih =>
    have hrest := ih fun b hb => hpoint b (List.mem_cons_of_mem a hb)
    rw [List.mapM_cons, hpoint a List.mem_cons_self, hrest]
    rfl

theorem items_eq_ok (home : List Token) (ceiling : Nat) :
    items home ceiling = .ok (ceilingItem ceiling :: members home ceiling) := by
  have harities : ∀ arity ∈ List.range (ceiling + 1), (Template.mk arity ceiling home).items =
      .ok (Template.mk arity ceiling home).boundedItems := by
    intro arity harity
    have hlt := List.mem_range.mp harity
    exact Template.items_eq _ (Nat.le_of_lt_succ hlt)
  rw [items, mapM_eq_ok harities, members, List.flatMap]
  rfl

variable (home : List Token) (ceiling : Nat)

theorem defined_items :
    (ceilingItem ceiling :: members home ceiling).filterMap Item.defined? =
      List.range (ceiling + 1) := by
  have hceiling : (ceilingItem ceiling).defined? = none := rfl
  rw [List.filterMap_cons_none hceiling, members, List.filterMap_flatMap]
  simp [Template.defined_boundedItems]

/-- The pairs of arities whose sum is within a ceiling. -/
def pairs (ceiling : Nat) : List (Nat × Nat) :=
  (List.range (ceiling + 1)).flatMap fun n =>
    (List.range (ceiling - n + 1)).map fun m => (n, m)

theorem joined_items :
    (ceilingItem ceiling :: members home ceiling).filterMap Item.joined? = pairs ceiling := by
  have hceiling : (ceilingItem ceiling).joined? = none := rfl
  rw [List.filterMap_cons_none hceiling, members, List.filterMap_flatMap, pairs]
  simp only [Template.joined_boundedItems]

theorem mem_pairs {n m : Nat} : (n, m) ∈ pairs ceiling ↔ n + m ≤ ceiling := by
  simp only [pairs, List.mem_flatMap, List.mem_map, List.mem_range, Prod.mk.injEq]
  constructor
  · rintro ⟨i, hi, j, hj, rfl, rfl⟩
    omega
  · intro hsum
    exact ⟨n, by omega, m, by omega, rfl, rfl⟩

theorem nodup_pairs : (pairs ceiling).Nodup := by
  rw [pairs, List.nodup_flatMap]
  refine ⟨?_, ?_⟩
  · intro n hn
    refine List.nodup_range.map ?_
    intro i j hpair
    exact congrArg Prod.snd hpair
  · refine List.nodup_range.imp ?_
    intro i j hij
    refine List.disjoint_left.mpr ?_
    intro pair hleft hright
    obtain ⟨a, -, rfl⟩ := List.mem_map.mp hleft
    obtain ⟨b, -, hpair⟩ := List.mem_map.mp hright
    exact hij (congrArg Prod.fst hpair).symm

theorem length_pairs : (pairs ceiling).length = (ceiling + 1) * (ceiling + 2) / 2 := by
  have hdouble : 2 * (pairs ceiling).length = (ceiling + 1) * (ceiling + 2) := by
    simp only [pairs, List.length_flatMap, List.length_map, List.length_range]
    induction ceiling with
    | zero => rfl
    | succ c ih =>
      rw [List.range_succ_eq_map, List.map_cons, List.map_map, List.sum_cons]
      have hshift : ((fun n => c + 1 - n + 1) ∘ Nat.succ) = fun n => c - n + 1 := by
        funext n
        simp
      rw [hshift, Nat.mul_add, ih]
      simp
      ring
  omega

theorem methodNames_items :
    (ceilingItem ceiling :: members home ceiling).flatMap Item.methodNames =
      (List.range (ceiling + 1)).flatMap fun arity =>
        (Template.mk arity ceiling home).boundedItems.flatMap Item.methodNames := by
  have hceiling : (ceilingItem ceiling).methodNames = [] := rfl
  rw [List.flatMap_cons, hceiling, List.nil_append, members, List.flatMap_assoc]

/-- A method is there once if it is among the methods of its arity, and no
    arity above the ceiling has methods. -/
theorem count_methodNames (n : Nat) (name : String) :
    ((ceilingItem ceiling :: members home ceiling).flatMap Item.methodNames).count (n, name) =
      if n ≤ ceiling ∧ name ∈ (Template.mk n ceiling home).fixedNames ++
          (Template.mk n ceiling home).slotNames then 1 else 0 := by
  have hnodup : ((ceilingItem ceiling :: members home ceiling).flatMap
      Item.methodNames).Nodup := by
    rw [methodNames_items, List.nodup_flatMap]
    refine ⟨fun arity harity => Template.nodup_methodNames _, ?_⟩
    refine List.nodup_range.imp ?_
    intro i j hij
    refine List.disjoint_left.mpr ?_
    intro pair hleft hright
    have hfirst := (Template.mem_methodNames _).mp hleft
    have hsecond := (Template.mem_methodNames _).mp hright
    exact hij (hfirst.1.symm.trans hsecond.1)
  -- The names are there at most once, so counting them asks only for membership.
  rw [hnodup.count]
  refine if_congr ?_ rfl rfl
  rw [methodNames_items, List.mem_flatMap]
  simp only [List.mem_range, Template.mem_methodNames]
  constructor
  · rintro ⟨arity, harity, rfl, hname⟩
    exact ⟨Nat.le_of_lt_succ harity, hname⟩
  · rintro ⟨hn, hname⟩
    exact ⟨n, Nat.lt_succ_of_le hn, rfl, hname⟩

theorem count_growth (n : Nat) {name : String} (hname : name ∈ ["prepend", "append"]) :
    ((ceilingItem ceiling :: members home ceiling).flatMap Item.methodNames).count (n, name) =
      if n < ceiling then 1 else 0 := by
  rw [count_methodNames]
  refine if_congr ?_ rfl rfl
  rw [Template.growth_mem_names _ hname]
  exact and_iff_right_of_imp Nat.le_of_lt

theorem count_slot (n number : Nat) {stem : String} (hstem : stem ∈ Template.slotStems) :
    ((ceilingItem ceiling :: members home ceiling).flatMap Item.methodNames).count
      (n, numberedName stem number) = if n ≤ ceiling ∧ 1 ≤ number ∧ number ≤ n then 1 else 0 := by
  rw [count_methodNames]
  refine if_congr ?_ rfl rfl
  rw [List.mem_append, or_iff_right (Template.numberedName_not_mem_fixedNames _ stem number),
    Template.numberedName_mem_slotNames _ hstem]

theorem count_empty (n : Nat) :
    ((ceilingItem ceiling :: members home ceiling).flatMap Item.methodNames).count (n, "empty") =
      if 1 ≤ n ∧ n ≤ ceiling then 1 else 0 := by
  rw [count_methodNames]
  refine if_congr ?_ rfl rfl
  rw [List.mem_append, or_iff_left (Template.digitless_not_mem_slotNames _ (by decide)),
    Template.empty_mem_fixedNames]
  exact and_comm

end Family

end Polyad
