import Polyad.Proofs.Family.Census
import Polyad.Proofs.Family.MethodScopes
/-!
Names in the items of one arity. Every item is scoped, whatever the arity, and the type has
no method twice.
-/

namespace Polyad

open Code

namespace Template

variable (t : Template)

section Items

theorem isParam_of_mem_params : ∀ name ∈ t.params, isParam name = true :=
  isParam_of_mem_series (by decide)

theorem covers_home (names : List String) : Covers (names ++ allWords t.home) t.home :=
  (covers_allWords t.home).mono (List.subset_append_right _ _)

theorem covers_optionalType {scope : List String} (hslots : t.params ⊆ scope) :
    Covers scope (Ty.tuple (t.types.map .option)).tokens := by
  rw [Ty.covers_tuple, List.forall_mem_map]
  intro type htype
  exact Ty.covers_option.mpr (covers_types hslots type htype)

section Parts

variable {t} {ps : List Param} {target trait : Ty}
  (hnames : ps.map Param.name = t.params)
  (hbounds : ∀ scope, ∀ p ∈ ps, ∀ bound ∈ p.bound, Covers scope bound.tokens)
  (htarget : ∀ scope, t.params ⊆ scope → Covers scope target.tokens)

include hnames hbounds htarget

/-- Methods of a type whose parameters are those of the slots. -/
theorem scoped_methods {ms : List Method} (hmethods : ∀ m ∈ ms, m.Scoped t.params t.home) :
    (Item.methods ps target ms).Scoped t.home :=
  Item.scoped_of_methods hnames t.nodup_params t.isParam_of_mem_params (hbounds _)
    (htarget _ (List.subset_append_left _ _)) hmethods

/-- A trait of such a type. -/
theorem scoped_implementation {notes : List Note} {members : List Member}
    (htrait : ∀ scope, t.params ⊆ scope → Covers scope t.home → Covers scope trait.tokens)
    (hmembers : ∀ member ∈ members, member.Scoped t.params t.home) :
    (Item.implementation notes ps trait target members).Scoped t.home :=
  Item.scoped_of_implementation hnames t.nodup_params t.isParam_of_mem_params (hbounds _)
    (htrait _ (List.subset_append_left _ _) (t.covers_home _))
    (htarget _ (List.subset_append_left _ _)) hmembers

end Parts

theorem scoped_ownMethods {ms : List Method} (hmethods : ∀ m ∈ ms, m.Scoped t.params t.home) :
    (Item.methods (Param.free t.params) t.type ms).Scoped t.home :=
  scoped_methods (by simp) (fun _ => Item.covers_bounds_free _) (fun _ => covers_type) hmethods

theorem scoped_ownTrait {trait : Ty} {members : List Member}
    (htrait : ∀ scope, t.params ⊆ scope → Covers scope t.home → Covers scope trait.tokens)
    (hmembers : ∀ member ∈ members, member.Scoped t.params t.home) :
    (Item.implementation [] (Param.free t.params) trait t.type members).Scoped t.home :=
  scoped_implementation (by simp) (fun _ => Item.covers_bounds_free _) (fun _ => covers_type)
    htrait hmembers

/-- A trait that a type has if its slots have it. -/
theorem scoped_bounded {bound : Ty} {notes : List Note} {members : List Member}
    (hbound : ∀ scope, Covers scope bound.tokens)
    (hmembers : ∀ member ∈ members, member.Scoped t.params t.home) :
    (Item.implementation notes (Param.bounded t.params bound) bound t.type members).Scoped t.home :=
  scoped_implementation (by simp) (fun scope => Item.covers_bounds_bounded _ (hbound scope))
    (fun _ => covers_type) (fun scope _ _ => hbound scope) hmembers

/-- The fields are those of the slots, each with a parameter of its own. -/
theorem scoped_definition (notes : List Note) :
    (Item.definition notes (t.fields.zip t.params)).Scoped t.home := by
  have hparams : (t.fields.zip t.params).map Prod.snd = t.params :=
    List.map_snd_zip (by simp [fields, params])
  have hfields : (t.fields.zip t.params).map Prod.fst = t.fields :=
    List.map_fst_zip (by simp [fields, params])
  have hlower : ∀ name ∈ t.fields, isParam name = false :=
    lower_of_mem_series (by decide) (by decide)
  have hbody : ∀ field ∈ t.fields.zip t.params,
      Covers (t.params ++ allWords t.home) (words [field.1, ":", field.2]) := by
    intro field hfield
    have hmem := List.of_mem_zip hfield
    simp +decide [hlower field.1 hmem.1, hmem.2]
  have hdeclared : Covers (t.params ++ allWords t.home)
      (Item.params (Param.free t.params)) :=
    Item.covers_params (by simp) (Item.covers_bounds_free _)
  exact
    { params := by
        rw [Item.paramNames, hparams]
        exact t.nodup_params
      spelled := by
        rw [Item.paramNames, hparams]
        exact t.isParam_of_mem_params
      fields := by
        rw [Item.fieldNames, hfields]
        exact nodup_series "t" t.arity
      declared := by
        rw [Item.paramNames, hparams, Item.bare, Item.tokens, hparams]
        simp only [List.flatMap_nil, List.nil_append, covers_append, covers_braced,
          covers_terminated, List.forall_mem_map]
        refine ⟨⟨?_, hdeclared⟩, hbody⟩
        simp +decide [isParam_tupleName]
      methods := by simp [Item.methodList] }

theorem scoped_accessItem : t.accessItem.Scoped t.home := by
  refine t.scoped_ownMethods ?_
  simp only [List.forall_mem_append, List.forall_mem_cons, List.not_mem_nil, false_imp_iff,
    implies_true, and_true, numbers, List.forall_mem_map, List.mem_range]
  exact ⟨⟨t.scoped_buildAll, fun k hk => t.scoped_readSlot hk⟩, t.scoped_unwrapAll,
    t.scoped_borrowAll⟩

theorem scoped_emptyItems : ∀ item ∈ t.emptyItems, item.Scoped t.home := by
  rw [emptyItems]
  split
  · simp
  · rw [List.forall_mem_singleton]
    refine scoped_methods (by simp) (fun _ => Item.covers_bounds_free _)
      (fun _ => t.covers_optionalType) ?_
    simpa using t.scoped_emptyTuple

theorem scoped_membershipItems : ∀ item ∈ t.membershipItems, item.Scoped t.home := by
  rw [membershipItems, List.forall_mem_cons, List.forall_mem_singleton]
  constructor
  · refine t.scoped_ownTrait ?_ (by simp)
    intro scope hslots hhome
    simp +decide [path, Path.tokens, hhome]
  · refine t.scoped_ownTrait (fun _ _ hhome => covers_member hhome) ?_
    simp +decide [Member.Scoped]

theorem scoped_nativeItems : ∀ item ∈ t.nativeItems, item.Scoped t.home := by
  have hsource (scope : List String) {source : Ty} (h : Covers scope source.tokens) :
      Covers scope (madeFrom source).tokens := by
    simp +decide [madeFrom, Path.tokens, h]
  rw [nativeItems, List.forall_mem_cons, List.forall_mem_singleton]
  constructor
  · refine t.scoped_ownTrait (fun scope hslots _ => hsource scope (covers_nativeType hslots)) ?_
    simpa [Member.Scoped] using t.scoped_wrapNative
  · refine scoped_implementation (by simp) (fun _ => Item.covers_bounds_free _)
      (fun _ => covers_nativeType) (fun scope hslots _ => hsource scope (covers_type hslots)) ?_
    simpa [Member.Scoped] using t.scoped_unwrapNative

theorem scoped_displayItem : t.displayItem.Scoped t.home := by
  refine t.scoped_bounded ?_ (List.forall_mem_singleton.mpr (t.scoped_formatMethod _))
  simp +decide [formatPath, Path.tokens]

theorem scoped_debugItem : t.debugItem.Scoped t.home := by
  refine t.scoped_bounded ?_ (List.forall_mem_singleton.mpr (t.scoped_formatMethod _))
  simp +decide [formatPath, Path.tokens]

theorem scoped_testDataItem : t.testDataItem.Scoped t.home := by
  refine t.scoped_bounded ?_ ?_
  · simp +decide [testTrait, Path.tokens]
  · rw [List.forall_mem_cons, List.forall_mem_singleton]
    exact ⟨t.scoped_drawMethod, t.scoped_shrinkMethod⟩

theorem scoped_orderItems : ∀ item ∈ t.orderItems, item.Scoped t.home := by
  have hord (scope : List String) : Covers scope (Ty.known ["core", "cmp", "Ord"]).tokens := by
    simp +decide [Ty.known, Path.tokens]
  rw [orderItems, List.forall_mem_cons, List.forall_mem_singleton]
  constructor
  · refine t.scoped_ownMethods ?_
    simpa using t.scoped_comparatorMethod
  · refine scoped_methods (by simp) (fun scope => Item.covers_bounds_bounded _ (hord scope))
      (fun _ => covers_type) ?_
    simpa using t.scoped_naturalMethod

theorem scoped_slotItem : t.slotItem.Scoped t.home := by
  refine t.scoped_ownMethods ?_
  rw [List.forall_mem_flatMap]
  intro k hk
  have hlt := List.mem_range.mp hk
  simp only [List.forall_mem_cons, List.not_mem_nil, false_imp_iff, implies_true, and_true]
  exact ⟨t.scoped_setSlot k, t.scoped_eraseSlot k, t.scoped_mapSlot hlt, t.scoped_tryMapSlot hlt⟩

theorem scoped_wholeItem : t.wholeItem.Scoped t.home := by
  refine t.scoped_ownMethods ?_
  simp only [List.forall_mem_cons, List.not_mem_nil, false_imp_iff, implies_true, and_true]
  exact ⟨t.scoped_mapAll, t.scoped_tryMapAll, t.scoped_mapEach, t.scoped_tryMapEach,
    t.scoped_applyAll, t.scoped_tryApplyAll⟩

theorem scoped_pushItems : ∀ item ∈ t.pushItems, item.Scoped t.home := by
  rw [pushItems]
  split
  · simp
  · rw [List.forall_mem_singleton]
    refine t.scoped_ownMethods ?_
    simp only [List.forall_mem_cons, List.not_mem_nil, false_imp_iff, implies_true, and_true]
    exact ⟨t.scoped_pushFront, t.scoped_pushBack⟩

theorem scoped_joinItem (m : Nat) : (t.joinItem m).Scoped t.home := by
  have hnames : t.params ++ series "U" m ⊆ t.params ++ series "U" m ++ allWords t.home :=
    List.subset_append_left _ _
  obtain ⟨hslots, hright⟩ := List.append_subset.mp hnames
  have hspelled : ∀ name ∈ t.params ++ series "U" m, isParam name = true := by
    rw [List.forall_mem_append]
    exact ⟨t.isParam_of_mem_params, isParam_of_mem_series (by decide)⟩
  have htypes := covers_types hslots
  have hrights := covers_rightTypes hright
  have hpath : Covers (t.params ++ series "U" m ++ allWords t.home)
      (t.path ["tuple", "Concat"]).tokens := by
    have hhome := t.covers_home (t.params ++ series "U" m)
    rw [path, Path.tokens, covers_append]
    exact ⟨hhome, by simp +decide⟩
  refine Item.scoped_of_implementation (by simp) (t.nodup_joinParams m) hspelled
    (Item.covers_bounds_free _) ?_ (covers_type hslots) ?_
  · rw [Ty.covers_path, List.forall_mem_singleton, Ty.covers_tuple]
    exact ⟨hpath, hrights⟩
  · simp only [List.forall_mem_cons, List.not_mem_nil, false_imp_iff, implies_true, and_true]
    refine ⟨⟨by decide, ?_⟩, ⟨by decide, ?_⟩, t.scoped_join m, t.scoped_joinOptional m⟩
    · rw [Ty.covers_tuple, List.forall_mem_append]
      exact ⟨htypes, hrights⟩
    · rw [Ty.covers_tuple, List.forall_mem_append, List.forall_mem_map]
      refine ⟨htypes, ?_⟩
      intro type htype
      exact Ty.covers_option.mpr (hrights type htype)

theorem scoped_fixedItems : ∀ item ∈ t.fixedItems, item.Scoped t.home := by
  simp only [fixedItems, List.forall_mem_append, List.forall_mem_cons, List.not_mem_nil,
    false_imp_iff, implies_true, and_true]
  exact ⟨⟨⟨⟨⟨⟨⟨t.scoped_definition _, t.scoped_accessItem⟩, t.scoped_emptyItems⟩,
    t.scoped_membershipItems⟩, t.scoped_nativeItems⟩, t.scoped_displayItem, t.scoped_debugItem,
    t.scoped_testDataItem⟩, t.scoped_orderItems⟩, t.scoped_slotItem, t.scoped_wholeItem⟩

theorem scoped_boundedItems : ∀ item ∈ t.boundedItems, item.Scoped t.home := by
  rw [boundedItems, List.forall_mem_append, List.forall_mem_append, List.forall_mem_map]
  exact ⟨⟨t.scoped_fixedItems, t.scoped_pushItems⟩, fun m _ => t.scoped_joinItem m⟩

end Items

/-- At no arity do two names get in each other's way: the type has no method twice, and
    every item and every method declares its names once, hides none that is declared
    around it, and mentions only type parameters that are declared. -/
theorem names_do_not_clash (hceiling : t.arity ≤ t.ceiling) :
    ∃ items, t.items = .ok items ∧
      List.Perm (items.flatMap Item.methodNames)
        ((t.fixedNames ++ t.slotNames).map fun name => (t.arity, name)) ∧
      (items.flatMap Item.methodNames).Nodup ∧ ∀ item ∈ items, item.Scoped t.home :=
  ⟨t.boundedItems, t.items_eq hceiling, t.methodNames_perm, t.nodup_methodNames,
    t.scoped_boundedItems⟩

/-- Pairs in a family with room for one more slot. -/
theorem names_do_not_clash_of_pairs :
    2 ≤ 3 ∧ ∃ items, (Template.mk 2 3 [.word "crate"]).items = .ok items ∧
      List.Perm (items.flatMap Item.methodNames)
        (((Template.mk 2 3 [.word "crate"]).fixedNames ++
          (Template.mk 2 3 [.word "crate"]).slotNames).map fun name => (2, name)) ∧
      (items.flatMap Item.methodNames).Nodup ∧ ∀ item ∈ items, item.Scoped [.word "crate"] :=
  ⟨by decide, names_do_not_clash (Template.mk 2 3 [.word "crate"]) (by decide)⟩

end Template

end Polyad
