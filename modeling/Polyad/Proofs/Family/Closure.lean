import Polyad.Proofs.Family.Arities
import Polyad.Proofs.Family.Census
/-!
A family mentions no tuples that it does not define, and it has everything that
fits under its ceiling once.
-/

namespace Polyad

open Code

namespace Template

variable (t : Template)

section Items

theorem arities_typeItem : t.typeItem.arities = [t.arity] := by
  change [(t.fields.zip t.params).length] = [t.arity]
  simp [fields, params]

theorem arities_accessItem :
    t.accessItem.arities = [t.arity, t.arity, t.arity, t.arity] := by
  have hreaders : (t.numbers.map readSlot).flatMap Method.arities = [] := by
    simp [arities_readSlot]
  simp [accessItem, Item.arities, arities_buildAll, hreaders, arities_unwrapAll,
    arities_borrowAll]

theorem arities_emptyItems :
    t.emptyItems.flatMap Item.arities = if t.arity = 0 then [] else [t.arity, t.arity] := by
  have hslots : (t.types.map Ty.option).flatMap Ty.arities = [] := by
    simp [List.flatMap_map, Ty.option]
  rw [emptyItems]
  split
  · rfl
  · simp [Item.arities, Ty.aritiesEach_eq_flatMap, hslots, arities_emptyTuple]

theorem arities_membershipItems :
    t.membershipItems.flatMap Item.arities = [t.arity, t.arity] := by
  simp [membershipItems, Item.arities, Member.arities]

theorem arities_nativeItems :
    t.nativeItems.flatMap Item.arities = [t.arity, t.arity, t.arity, t.arity] := by
  simp [nativeItems, madeFrom, Item.arities, Member.arities, Ty.aritiesEach_eq_flatMap,
    arities_wrapNative, arities_unwrapNative]

theorem arities_displayItem : t.displayItem.arities = [t.arity] := by
  have hbound : (Ty.path (formatPath "Display") []).arities = [] := rfl
  simp [displayItem, Item.arities, Member.arities, arities_bounded hbound, arities_displayMethod]

theorem arities_debugItem : t.debugItem.arities = [t.arity] := by
  have hbound : (Ty.path (formatPath "Debug") []).arities = [] := rfl
  simp [debugItem, Item.arities, Member.arities, arities_bounded hbound, arities_debugMethod]

theorem arities_testDataItem : t.testDataItem.arities = [t.arity] := by
  have hbound : (Ty.path testTrait []).arities = [] := rfl
  simp [testDataItem, Item.arities, Member.arities, arities_bounded hbound, arities_drawMethod,
    arities_shrinkMethod]

theorem arities_orderItems : t.orderItems.flatMap Item.arities = [t.arity, t.arity] := by
  have hbound : (Ty.known ["core", "cmp", "Ord"]).arities = [] := rfl
  simp [orderItems, Item.arities, arities_bounded hbound, arities_comparatorMethod,
    arities_naturalMethod]

theorem arities_slotItem :
    t.slotItem.arities = t.arity :: (List.range t.arity).flatMap fun _ =>
      [t.arity, t.arity, t.arity - 1, t.arity - 1, t.arity, t.arity, t.arity] := by
  simp only [slotItem, Item.arities, arities_free, arities_type, List.nil_append,
    List.singleton_append, List.flatMap_assoc]
  congr 1
  apply List.flatMap_congr
  intro k hk
  simp [arities_setSlot, arities_eraseSlot t (List.mem_range.mp hk), arities_mapSlot,
    arities_tryMapSlot]

theorem arities_wholeItem : t.wholeItem.arities = [t.arity, t.arity, t.arity, t.arity] := by
  simp [wholeItem, Item.arities, arities_mapAll, arities_tryMapAll, arities_mapEach,
    arities_tryMapEach, arities_applyAll, arities_tryApplyAll]

theorem arities_pushItems :
    t.pushItems.flatMap Item.arities = if t.ceiling ≤ t.arity then [] else
      [t.arity, t.arity + 1, t.arity + 1, t.arity + 1, t.arity + 1] := by
  rw [pushItems]
  split
  · rfl
  · simp [Item.arities, arities_pushFront, arities_pushBack]

theorem arities_joinItem (m : Nat) :
    (t.joinItem m).arities = [m, t.arity, t.arity + m, t.arity + m, m, t.arity + m, m,
      t.arity + m, t.arity + m] := by
  simp [joinItem, Item.arities, Member.arities, Ty.aritiesEach_eq_flatMap, Ty.option,
    List.flatMap_map, arities_join, arities_joinOptional]

end Items

/-- The items that do not depend on the ceiling mention nothing larger than
    their own arity. -/
theorem le_arity_of_mem_fixedItems :
    ∀ size ∈ t.fixedItems.flatMap Item.arities, size ≤ t.arity := by
  have hempty : ∀ size ∈ t.emptyItems.flatMap Item.arities, size ≤ t.arity := by
    rw [arities_emptyItems]
    split <;> simp
  have hslot : ∀ size ∈ t.slotItem.arities, size ≤ t.arity := by
    rw [arities_slotItem]
    intro size hsize
    simp only [List.mem_cons, List.mem_flatMap, List.not_mem_nil, or_false] at hsize
    omega
  intro size hsize
  by_contra hlarge
  have hother : size ≠ t.arity := by omega
  simp only [fixedItems, List.flatMap_append, List.flatMap_cons, List.flatMap_nil,
    List.append_nil, arities_typeItem, arities_accessItem, arities_membershipItems,
    arities_nativeItems, arities_displayItem, arities_debugItem, arities_testDataItem,
    arities_orderItems, arities_wholeItem, List.mem_append, List.mem_cons, List.not_mem_nil,
    hother, or_false, false_or] at hsize
  obtain hsize | hsize := hsize
  · exact hlarge (hempty size hsize)
  · exact hlarge (hslot size hsize)

/-- Nothing that an arity within the ceiling mentions exceeds the ceiling. -/
theorem le_ceiling_of_mem_boundedItems (hceiling : t.arity ≤ t.ceiling) :
    ∀ size ∈ t.boundedItems.flatMap Item.arities, size ≤ t.ceiling := by
  have hfixed : ∀ size ∈ t.fixedItems.flatMap Item.arities, size ≤ t.ceiling := by
    intro size hsize
    exact Nat.le_trans (t.le_arity_of_mem_fixedItems size hsize) hceiling
  have hpush : ∀ size ∈ t.pushItems.flatMap Item.arities, size ≤ t.ceiling := by
    rw [arities_pushItems]
    intro size hsize
    split at hsize
    · cases hsize
    · simp only [List.mem_cons, List.not_mem_nil, or_false] at hsize
      omega
  have hjoins : ∀ size ∈ ((List.range (t.ceiling - t.arity + 1)).map t.joinItem).flatMap
      Item.arities, size ≤ t.ceiling := by
    intro size hsize
    rw [List.flatMap_map] at hsize
    obtain ⟨m, hm, hsize⟩ := List.mem_flatMap.mp hsize
    have hlt := List.mem_range.mp hm
    simp only [arities_joinItem, List.mem_cons, List.not_mem_nil, or_false] at hsize
    omega
  simp only [boundedItems, List.flatMap_append, List.forall_mem_append]
  exact ⟨⟨hfixed, hpush⟩, hjoins⟩

end Template

namespace Family

/-- What there is in a family with a ceiling, each of it once, and that the
    family mentions only what it defines. -/
structure Complete (items : List Item) (ceiling : Nat) : Prop where
  types : items.filterMap Item.defined? = List.range (ceiling + 1)
  joins : ∀ n m, (items.filterMap Item.joined?).count (n, m) =
    if n + m ≤ ceiling then 1 else 0
  joinCount : (items.filterMap Item.joined?).length = (ceiling + 1) * (ceiling + 2) / 2
  growth : ∀ n, ∀ name ∈ ["prepend", "append"],
    (items.flatMap Item.methodNames).count (n, name) = if n < ceiling then 1 else 0
  slots : ∀ n number, ∀ stem ∈ ["update", "remove", "map", "try_map", "t"],
    (items.flatMap Item.methodNames).count (n, numberedName stem number) =
      if n ≤ ceiling ∧ 1 ≤ number ∧ number ≤ n then 1 else 0
  emptiness : ∀ n, (items.flatMap Item.methodNames).count (n, "empty") =
    if 1 ≤ n ∧ n ≤ ceiling then 1 else 0
  closed : ∀ item ∈ items, ∀ size ∈ item.arities,
    size ≤ ceiling ∧ size ∈ items.filterMap Item.defined?

variable (home : List Token) (ceiling : Nat)

theorem le_ceiling_of_mem_items {item : Item}
    (hitem : item ∈ ceilingItem ceiling :: members home ceiling) {size : Nat}
    (hsize : size ∈ item.arities) : size ≤ ceiling := by
  obtain rfl | hmember := List.mem_cons.mp hitem
  · cases hsize
  · obtain ⟨arity, harity, hmember⟩ := List.mem_flatMap.mp hmember
    have hlt := List.mem_range.mp harity
    exact Template.le_ceiling_of_mem_boundedItems (Template.mk arity ceiling home)
      (Nat.le_of_lt_succ hlt) size (List.mem_flatMap.mpr ⟨item, hmember, hsize⟩)

/-- Every ceiling has a complete family. -/
theorem items_complete :
    ∃ items, Family.items home ceiling = .ok items ∧ Complete items ceiling := by
  refine ⟨_, items_eq_ok home ceiling, ?_⟩
  refine
    { types := defined_items home ceiling
      joins := ?_
      joinCount := ?_
      growth := ?_
      slots := ?_
      emptiness := ?_
      closed := ?_ }
  · intro n m
    rw [joined_items, (nodup_pairs ceiling).count]
    simp only [mem_pairs]
  · rw [joined_items, length_pairs]
  · exact fun n name hname => count_growth home ceiling n hname
  · intro n number stem hstem
    have hall : ∀ stem ∈ ["update", "remove", "map", "try_map", "t"],
        stem ∈ Template.slotStems := by decide
    exact count_slot home ceiling n number (hall stem hstem)
  · exact count_empty home ceiling
  · intro item hitem size hsize
    have hle := le_ceiling_of_mem_items home ceiling hitem hsize
    rw [defined_items]
    exact ⟨hle, List.mem_range.mpr (Nat.lt_succ_of_le hle)⟩

end Family

end Polyad
