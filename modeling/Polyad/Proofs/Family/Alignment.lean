import Polyad.Proofs.Family.Layouts
/-!
The items of one arity build exactly the tuples of its layouts. Values and
declared types are edited in separate places; the layouts say that they stay in
step.
-/

namespace Polyad.Template

open Code

variable (t : Template)

section LiteralFree

theorem literalFree_buildAll : t.buildAll.LiteralFree where
  stmts := by simp [buildAll, yield]
  result := by simp [buildAll, yield, Expr.literals]

/-- The checks of optional arguments build no tuples. -/
theorem literals_demand (operation argument : String) (s : Scope) :
    (t.demand operation argument).value.literals s = [] :=
  Expr.literals_of_arities s _ (t.arities_demand operation argument)

theorem literalFree_tryMapSlot (k : Nat) : (t.tryMapSlot k).LiteralFree where
  stmts := by simp [tryMapSlot, literals_demand]
  result := by
    simp [tryMapSlot, Expr.ok, Expr.known, Expr.self, Expr.literals, Expr.literalsEach]

theorem literalFree_tryMapEach : t.tryMapEach.LiteralFree where
  stmts := by simp [tryMapEach, literals_demand]
  result := by
    intro s
    have hargs : Expr.literalsEach s ((series "f" t.arity).map .var) = [] :=
      Expr.literalsEach_eq_nil (by simp [Expr.literals])
    simp [tryMapEach, Expr.ok, Expr.known, Expr.self, Expr.literals, Expr.literalsEach, hargs]

theorem literalFree_wrapNative : t.wrapNative.LiteralFree where
  stmts := by simp [wrapNative, yield]
  result := by simp [wrapNative, yield, Expr.literals]

theorem literalFree_unwrapNative : t.unwrapNative.LiteralFree where
  stmts := by simp [unwrapNative, yield]
  result := by simp [unwrapNative, yield, Expr.literals, Expr.literalsEach]

end LiteralFree

section Items

theorem fills_accessItem :
    List.Forall₂ Literal.Fills t.accessItem.literals [t.borrowLayout] := by
  have hreaders : (t.numbers.map readSlot).flatMap t.accessItem.literalsOf = [] := by
    rw [List.flatMap_eq_nil_iff]
    intro m hm
    obtain ⟨number, -, rfl⟩ := List.mem_map.mp hm
    exact Item.literalsOf_of_arities _ (arities_readSlot number)
  have hliterals : t.accessItem.literals = t.accessItem.literalsOf t.borrowAll := by
    change ([t.buildAll] ++ t.numbers.map readSlot ++ [t.unwrapAll, t.borrowAll]).flatMap
      t.accessItem.literalsOf = _
    simp [hreaders, t.literalFree_buildAll.literalsOf,
      Item.literalsOf_of_arities _ t.arities_unwrapAll]
  rw [hliterals]
  exact t.fills_borrowAll

theorem fills_emptyItems :
    List.Forall₂ Literal.Fills (t.emptyItems.flatMap Item.literals)
      (if t.arity = 0 then [] else [t.emptyLayout]) := by
  by_cases harity : t.arity = 0
  · simp [emptyItems, harity]
  · rw [emptyItems, if_neg harity, if_neg harity, List.flatMap_singleton, Item.literals]
    simpa only [Item.methodList, List.flatMap_singleton] using t.fills_emptyTuple

theorem fills_slotItem :
    List.Forall₂ Literal.Fills t.slotItem.literals
      ((List.range t.arity).flatMap fun k => [t.setLayout k, t.eraseLayout k, t.mapLayout k]) := by
  change List.Forall₂ _ (((List.range t.arity).flatMap fun k =>
    [t.setSlot k, t.eraseSlot k, t.mapSlot k, t.tryMapSlot k]).flatMap t.slotItem.literalsOf) _
  rw [List.flatMap_assoc]
  apply forall₂_flatMap
  intro k hk
  have hlt := List.mem_range.mp hk
  simp only [List.flatMap_cons, List.flatMap_nil, (t.literalFree_tryMapSlot k).literalsOf,
    List.append_nil]
  exact List.rel_append (t.fills_setSlot k)
    (List.rel_append (t.fills_eraseSlot hlt) (t.fills_mapSlot hlt))

theorem fills_wholeItem :
    List.Forall₂ Literal.Fills t.wholeItem.literals [t.eachLayout] := by
  have hliterals : t.wholeItem.literals = t.wholeItem.literalsOf t.mapEach := by
    change [t.mapAll, t.tryMapAll, t.mapEach, t.tryMapEach, t.applyAll, t.tryApplyAll].flatMap
      t.wholeItem.literalsOf = _
    simp [t.literalFree_tryMapEach.literalsOf, Item.literalsOf_of_arities _ t.arities_mapAll,
      Item.literalsOf_of_arities _ t.arities_tryMapAll,
      Item.literalsOf_of_arities _ t.arities_applyAll,
      Item.literalsOf_of_arities _ t.arities_tryApplyAll]
  rw [hliterals]
  exact t.fills_mapEach

theorem fills_pushItems :
    List.Forall₂ Literal.Fills (t.pushItems.flatMap Item.literals)
      (if t.ceiling ≤ t.arity then [] else [t.frontLayout, t.backLayout]) := by
  by_cases hfull : t.ceiling ≤ t.arity
  · simp [pushItems, hfull]
  · rw [pushItems, if_neg hfull, if_neg hfull, List.flatMap_singleton]
    change List.Forall₂ _ ([t.pushFront, t.pushBack].flatMap t.pushItem.literalsOf) _
    simp only [List.flatMap_cons, List.flatMap_nil, List.append_nil]
    exact List.rel_append t.fills_pushFront t.fills_pushBack

theorem fills_joinItem (m : Nat) :
    List.Forall₂ Literal.Fills (t.joinItem m).literals
      [t.joinLayout m, t.presentLayout m, t.absentLayout m] := by
  change List.Forall₂ _ ([t.join m, t.joinOptional m].flatMap (t.joinItem m).literalsOf) _
  simp only [List.flatMap_cons, List.flatMap_nil, List.append_nil]
  exact List.rel_append (t.fills_join m) (t.fills_joinOptional m)

theorem literals_orderItems : t.orderItems.flatMap Item.literals = [] := by
  have hcomparator :
      (Item.methods (Param.free t.params) t.type [t.comparatorMethod]).literals = [] :=
    Item.literals_eq_nil (List.forall_mem_singleton.mpr
      (Method.literalFree_of_arities t.arities_comparatorMethod))
  have hnatural : (Item.methods (Param.bounded t.params (.known ["core", "cmp", "Ord"])) t.type
      [t.naturalMethod]).literals = [] :=
    Item.literals_eq_nil (List.forall_mem_singleton.mpr
      (Method.literalFree_of_arities t.arities_naturalMethod))
  simp [orderItems, hcomparator, hnatural]

theorem literals_nativeItems : t.nativeItems.flatMap Item.literals = [] := by
  have hwrap : (Item.implementation [] (Param.free t.params) (madeFrom (.native t.types)) t.type
      [.method t.wrapNative]).literals = [] :=
    Item.literals_eq_nil (List.forall_mem_singleton.mpr t.literalFree_wrapNative)
  have hunwrap : (Item.implementation [] (Param.free t.params) (madeFrom t.type)
      (.native t.types) [.method t.unwrapNative]).literals = [] :=
    Item.literals_eq_nil (List.forall_mem_singleton.mpr t.literalFree_unwrapNative)
  simp [nativeItems, hwrap, hunwrap]

theorem literals_testDataItem : t.testDataItem.literals = [] := by
  refine Item.literals_eq_nil (List.forall_mem_cons.mpr ⟨?_, List.forall_mem_singleton.mpr ?_⟩)
  · exact Method.literalFree_of_arities t.arities_drawMethod
  · exact Method.literalFree_of_arities arities_shrinkMethod

theorem literals_displayItem : t.displayItem.literals = [] :=
  Item.literals_eq_nil (List.forall_mem_singleton.mpr
    (Method.literalFree_of_arities t.arities_displayMethod))

theorem literals_debugItem : t.debugItem.literals = [] :=
  Item.literals_eq_nil (List.forall_mem_singleton.mpr
    (Method.literalFree_of_arities t.arities_debugMethod))

theorem literals_membershipItems : t.membershipItems.flatMap Item.literals = [] := by
  simp [membershipItems, Item.literals, Item.methodList]

theorem fills_fixedItems :
    List.Forall₂ Literal.Fills (t.fixedItems.flatMap Item.literals)
      ([t.borrowLayout] ++ (if t.arity = 0 then [] else [t.emptyLayout]) ++
        (List.range t.arity).flatMap (fun k => [t.setLayout k, t.eraseLayout k, t.mapLayout k]) ++
        [t.eachLayout]) := by
  have htype : t.typeItem.literals = [] := rfl
  have hliterals : t.fixedItems.flatMap Item.literals =
      t.accessItem.literals ++ t.emptyItems.flatMap Item.literals ++ t.slotItem.literals ++
        t.wholeItem.literals := by
    simp [fixedItems, htype, literals_membershipItems, literals_nativeItems, literals_displayItem,
      literals_debugItem, literals_testDataItem, literals_orderItems]
  rw [hliterals]
  exact List.rel_append (List.rel_append (List.rel_append t.fills_accessItem t.fills_emptyItems)
    t.fills_slotItem) t.fills_wholeItem

end Items

/-- The literals of an arity are those of its layouts, one for one and in the
    same order. -/
theorem fills_items (hceiling : t.arity ≤ t.ceiling) :
    ∃ items, t.items = .ok items ∧
      List.Forall₂ Literal.Fills (items.flatMap Item.literals) t.layouts := by
  refine ⟨_, t.items_eq hceiling, ?_⟩
  rw [boundedItems, List.flatMap_append, List.flatMap_append, List.flatMap_map, layouts]
  refine List.rel_append (List.rel_append t.fills_fixedItems t.fills_pushItems) ?_
  apply forall₂_flatMap
  intro m hm
  exact t.fills_joinItem m

/-- Every tuple that is built at an arity within the ceiling has the values of
    its layout in their places, under a declared type with the type of each
    value in the same place, and is spelled with as many slots as that type. -/
theorem literals_match_layouts (hceiling : t.arity ≤ t.ceiling) :
    ∃ items, t.items = .ok items ∧
      List.Forall₂ (fun l b => l.Fills b ∧ l.Spells b) (items.flatMap Item.literals)
        t.layouts := by
  obtain ⟨items, hitems, hfills⟩ := t.fills_items hceiling
  refine ⟨items, hitems, hfills.imp ?_⟩
  intro l b hlb
  exact ⟨hlb, hlb.spells⟩

/-- Pairs in a family with room for one more slot. -/
theorem literals_match_layouts_of_pairs :
    2 ≤ 3 ∧ ∃ items, (Template.mk 2 3 [.word "crate"]).items = .ok items ∧
      List.Forall₂ (fun l b => l.Fills b ∧ l.Spells b) (items.flatMap Item.literals)
        (Template.mk 2 3 [.word "crate"]).layouts :=
  ⟨by decide, literals_match_layouts (Template.mk 2 3 [.word "crate"]) (by decide)⟩

end Polyad.Template
