import Polyad.Proofs.Family.Scopes
/-!
The scopes of the methods of one arity: each declares names that stand apart from the
parameters of the slots, and mentions only what is declared.
-/

namespace Polyad

open Code

namespace Template

variable (t : Template)

section Names

variable {a b : String} {names : List String}

theorem disjoint_series (ha : Digitless a) (hb : Digitless b) (hab : a ≠ b) (m n : Nat) :
    List.Disjoint (series a m) (series b n) := by
  rw [List.disjoint_left]
  intro name hleft hright
  obtain ⟨i, -, rfl⟩ := List.mem_map.mp hleft
  obtain ⟨j, -, hname⟩ := List.mem_map.mp hright
  exact hab (stem_eq_of_numberedName_eq hb ha hname).symm

theorem disjoint_series_digitless (hnames : ∀ name ∈ names, Digitless name) (n : Nat) :
    List.Disjoint (series a n) names := by
  rw [List.disjoint_left]
  intro name hleft hright
  obtain ⟨i, -, rfl⟩ := List.mem_map.mp hleft
  exact (hnames _ hright).ne_numberedName a (i + 1) rfl

/-- Parameters without a number are apart from those of the slots. -/
theorem nodup_params_append (hnames : ∀ name ∈ names, Digitless name) (hnodup : names.Nodup) :
    (t.params ++ names).Nodup :=
  (nodup_series "T" t.arity).append hnodup (disjoint_series_digitless hnames t.arity)

/-- So are parameters with a number of their own. -/
theorem nodup_params_append_series (ha : Digitless a) (hstem : a ≠ "T") (n : Nat) :
    (t.params ++ series a n).Nodup :=
  (nodup_series "T" t.arity).append (nodup_series a n)
    (disjoint_series (by decide) ha hstem.symm t.arity n)

end Names

/-- Names that are written out in a method: its own parameters are capital letters, its
    values are not, and no name stands twice. -/
def FixedNames (own values : List String) : Prop :=
  (own.Nodup ∧ ∀ name ∈ own, Digitless name ∧ isParam name = true) ∧
    values.Nodup ∧ ∀ name ∈ values, isParam name = false

instance (own values : List String) : Decidable (FixedNames own values) :=
  inferInstanceAs (Decidable (_ ∧ _))

theorem nodup_params : t.params.Nodup :=
  nodup_series "T" t.arity

section Covers

variable {scope : List String}

theorem covers_param {name : String} (hname : name ∈ scope) :
    Covers scope (Ty.param name).tokens :=
  Ty.covers_param.mpr fun _ => hname

theorem covers_params {names : List String} (hnames : names ⊆ scope) :
    ∀ type ∈ names.map Ty.param, Covers scope type.tokens := by
  rw [List.forall_mem_map]
  intro name hname
  exact covers_param (hnames hname)

theorem covers_function {inputs : List Ty} {output : Ty}
    (hinputs : ∀ input ∈ inputs, Covers scope input.tokens) (houtput : Covers scope output.tokens) :
    Covers scope (function inputs output).tokens :=
  Ty.covers_callable.mpr ⟨hinputs, houtput⟩

variable {t}

theorem covers_fault (hhome : Covers scope t.home) : Covers scope t.fault.tokens := by
  simp +decide [fault, path, Path.tokens, hhome]

theorem covers_member (hhome : Covers scope t.home) : Covers scope t.member.tokens := by
  simp +decide [member, path, Path.tokens, hhome]

variable (hslots : t.params ⊆ scope)

include hslots

theorem covers_types : ∀ type ∈ t.types, Covers scope type.tokens :=
  covers_params hslots

theorem covers_type : Covers scope t.type.tokens :=
  Ty.covers_tuple.mpr (covers_types hslots)

theorem covers_nativeType : Covers scope (Ty.native t.types).tokens :=
  Ty.covers_native.mpr (covers_types hslots)

theorem covers_ownType {k : Nat} (hk : k < t.arity) : Covers scope (ownType k).tokens :=
  covers_param (hslots (List.mem_map.mpr ⟨k, List.mem_range.mpr hk, rfl⟩))

theorem covers_typesWith (hown : "U" ∈ scope) (k : Nat) :
    ∀ type ∈ t.typesWith k, Covers scope type.tokens := by
  intro type htype
  obtain hold | rfl := List.mem_or_eq_of_mem_set htype
  · exact covers_types hslots type hold
  · exact covers_param hown

end Covers

section Plain

/-- The readers, the native forms and the traits declare no parameters beside those of the
    slots. -/
theorem scoped_of_slots {m : Method} (values : List String) (hown : m.generics = [])
    (hbounds : m.bounds = []) (hnames : m.valueNames = values)
    (hvalues : values.Nodup ∧ ∀ name ∈ values, isParam name = false)
    (hparams : ∀ scope, t.params ⊆ scope → ∀ param ∈ m.params, Covers scope param.2.tokens)
    (hresult : ∀ scope, t.params ⊆ scope → Covers scope m.result.tokens) :
    m.Scoped t.params t.home :=
  Method.scoped_of_plain values hown hbounds hnames t.nodup_params hvalues hparams hresult

theorem scoped_readSlot {k : Nat} (hk : k < t.arity) :
    (readSlot (k + 1)).Scoped t.params t.home := by
  refine t.scoped_of_slots ["self"] rfl rfl rfl (by decide) (by simp [readSlot]) ?_
  exact fun _ hslots => Ty.covers_ref.mpr (covers_ownType hslots hk)

theorem scoped_unwrapAll : t.unwrapAll.Scoped t.params t.home := by
  refine t.scoped_of_slots ["self"] rfl rfl rfl (by decide) (by simp [unwrapAll]) ?_
  exact fun _ hslots => covers_nativeType hslots

theorem scoped_borrowAll : t.borrowAll.Scoped t.params t.home := by
  refine t.scoped_of_slots ["self"] rfl rfl rfl (by decide) (by simp [borrowAll]) ?_
  intro scope hslots
  refine Ty.covers_tuple.mpr (List.forall_mem_map.mpr ?_)
  exact fun type htype => Ty.covers_ref.mpr (covers_types hslots type htype)

theorem scoped_emptyTuple : t.emptyTuple.Scoped t.params t.home := by
  refine t.scoped_of_slots [] rfl rfl rfl (by decide) (by simp [emptyTuple]) ?_
  exact fun _ _ => Ty.covers_self

theorem scoped_eraseSlot (k : Nat) : (t.eraseSlot k).Scoped t.params t.home := by
  refine t.scoped_of_slots ["self"] rfl rfl rfl (by decide) (by simp [eraseSlot]) ?_
  intro scope hslots
  refine Ty.covers_tuple.mpr ?_
  exact fun type htype => covers_types hslots type (List.mem_of_mem_eraseIdx htype)

theorem scoped_unwrapNative : t.unwrapNative.Scoped t.params t.home := by
  refine t.scoped_of_slots ["tuple"] rfl rfl rfl (by decide) ?_ fun _ _ => Ty.covers_self
  exact fun _ hslots => List.forall_mem_singleton.mpr (covers_type hslots)

theorem scoped_drawMethod : t.drawMethod.Scoped t.params t.home := by
  refine t.scoped_of_slots ["g"] rfl rfl rfl (by decide) ?_ fun _ _ => Ty.covers_self
  intro scope hslots
  simp +decide [drawMethod, Path.tokens]

theorem scoped_shrinkMethod : shrinkMethod.Scoped t.params t.home := by
  refine t.scoped_of_slots ["self"] rfl rfl rfl (by decide) (by simp [shrinkMethod]) ?_
  exact fun _ _ => Ty.covers_iterator.mpr Ty.covers_self

theorem scoped_formatMethod (body : Block) : (formatMethod body).Scoped t.params t.home := by
  refine t.scoped_of_slots ["self", "f"] rfl rfl rfl (by decide) ?_ ?_
  · intro scope hslots
    simp +decide [formatMethod, formatPath, Path.tokens]
  · intro scope hslots
    simp +decide [formatMethod, formatPath, Path.tokens]

theorem scoped_naturalMethod : t.naturalMethod.Scoped t.params t.home := by
  refine t.scoped_of_slots ["a", "b"] rfl rfl rfl (by decide) ?_ fun _ _ => Ty.covers_ordering
  intro scope hslots
  simp [naturalMethod]

end Plain

section Letters

variable {m : Method}

theorem scoped_of_fixed (own values : List String) (hown : m.generics = own)
    (hnames : m.valueNames = values) (hfixed : FixedNames own values)
    (hcovered : ∀ scope, t.params ⊆ scope → own ⊆ scope → Covers scope t.home →
      m.CoveredBy scope) : m.Scoped t.params t.home := by
  obtain ⟨⟨hnodup, hletters⟩, hvalues, hlower⟩ := hfixed
  have hfree : (t.params ++ own).Nodup :=
    t.nodup_params_append (fun name hname => (hletters name hname).1) hnodup
  exact Method.scoped_of_names own values hown hnames hfree
    (fun name hname => (hletters name hname).2) hvalues hlower hcovered

section Whole

variable {t} {scope : List String} (hslots : t.params ⊆ scope) (hown : ["R", "F"] ⊆ scope)

include hslots hown

theorem covers_foldBounds :
    ∀ bound ∈ [("F", function t.types (.param "R"))],
      bound.1 ∈ scope ∧ Covers scope bound.2.tokens := by
  have hresult : Covers scope (Ty.param "R").tokens := covers_param (hown (by simp))
  rw [List.forall_mem_singleton]
  exact ⟨hown (by simp), covers_function (covers_types hslots) hresult⟩

theorem covers_mapBounds (hhome : Covers scope t.home) :
    ∀ bound ∈ [("F", function t.types (.param "R")), ("R", t.member)],
      bound.1 ∈ scope ∧ Covers scope bound.2.tokens := by
  have hfold := covers_foldBounds hslots hown
  rw [List.forall_mem_singleton] at hfold
  rw [List.forall_mem_cons, List.forall_mem_singleton]
  exact ⟨hfold, hown (by simp), covers_member hhome⟩

end Whole

theorem scoped_mapAll : t.mapAll.Scoped t.params t.home := by
  refine t.scoped_of_fixed ["R", "F"] ["self", "f"] rfl rfl (by decide) ?_
  intro scope hslots hown hhome
  exact
    { params := List.forall_mem_singleton.mpr (covers_param (hown (by simp)))
      result := covers_param (hown (by simp))
      bounds := covers_mapBounds hslots hown hhome }

theorem scoped_tryMapAll : t.tryMapAll.Scoped t.params t.home := by
  refine t.scoped_of_fixed ["R", "F"] ["self", "f"] rfl rfl (by decide) ?_
  intro scope hslots hown hhome
  have hfunction : Covers scope (Ty.param "F").tokens := covers_param (hown (by simp))
  have hresult : Covers scope (Ty.param "R").tokens := covers_param (hown (by simp))
  exact
    { params := List.forall_mem_singleton.mpr (Ty.covers_option.mpr hfunction)
      result := Ty.covers_result.mpr ⟨hresult, covers_fault hhome⟩
      bounds := covers_mapBounds hslots hown hhome }

theorem scoped_applyAll : t.applyAll.Scoped t.params t.home := by
  refine t.scoped_of_fixed ["R", "F"] ["self", "f"] rfl rfl (by decide) ?_
  intro scope hslots hown hhome
  exact
    { params := List.forall_mem_singleton.mpr (covers_param (hown (by simp)))
      result := covers_param (hown (by simp))
      bounds := covers_foldBounds hslots hown }

theorem scoped_tryApplyAll : t.tryApplyAll.Scoped t.params t.home := by
  refine t.scoped_of_fixed ["R", "F"] ["self", "f"] rfl rfl (by decide) ?_
  intro scope hslots hown hhome
  have hfunction : Covers scope (Ty.param "F").tokens := covers_param (hown (by simp))
  have hresult : Covers scope (Ty.param "R").tokens := covers_param (hown (by simp))
  exact
    { params := List.forall_mem_singleton.mpr (Ty.covers_option.mpr hfunction)
      result := Ty.covers_result.mpr ⟨hresult, covers_fault hhome⟩
      bounds := covers_foldBounds hslots hown }

theorem scoped_pushFront : t.pushFront.Scoped t.params t.home := by
  refine t.scoped_of_fixed ["V"] ["self", "value"] rfl rfl (by decide) ?_
  intro scope hslots hown hhome
  have hvalue : Covers scope (Ty.param "V").tokens := covers_param (hown (by simp))
  exact
    { params := List.forall_mem_singleton.mpr hvalue
      result := Ty.covers_tuple.mpr (List.forall_mem_cons.mpr ⟨hvalue, covers_types hslots⟩)
      bounds := by simp [pushFront] }

theorem scoped_pushBack : t.pushBack.Scoped t.params t.home := by
  refine t.scoped_of_fixed ["V"] ["self", "value"] rfl rfl (by decide) ?_
  intro scope hslots hown hhome
  have hvalue : Covers scope (Ty.param "V").tokens := covers_param (hown (by simp))
  have htypes : ∀ type ∈ t.types ++ [.param "V"], Covers scope type.tokens := by
    rw [List.forall_mem_append, List.forall_mem_singleton]
    exact ⟨covers_types hslots, hvalue⟩
  exact
    { params := List.forall_mem_singleton.mpr hvalue
      result := Ty.covers_tuple.mpr htypes
      bounds := by simp [pushBack] }

theorem scoped_setSlot (k : Nat) : (t.setSlot k).Scoped t.params t.home := by
  refine t.scoped_of_fixed ["U"] ["self", "value"] rfl rfl (by decide) ?_
  intro scope hslots hown hhome
  exact
    { params := List.forall_mem_singleton.mpr (covers_param (hown (by simp)))
      result := Ty.covers_tuple.mpr (covers_typesWith hslots (hown (by simp)) k)
      bounds := by simp [setSlot] }

section Position

variable {k : Nat} (hk : k < t.arity)

include hk

theorem covers_slotBounds {scope : List String} (hslots : t.params ⊆ scope)
    (hown : ["U", "F"] ⊆ scope) :
    ∀ bound ∈ [("F", function [ownType k] (.param "U"))],
      bound.1 ∈ scope ∧ Covers scope bound.2.tokens := by
  have hinput : ∀ input ∈ [ownType k], Covers scope input.tokens :=
    List.forall_mem_singleton.mpr (covers_ownType hslots hk)
  rw [List.forall_mem_singleton]
  exact ⟨hown (by simp), covers_function hinput (covers_param (hown (by simp)))⟩

theorem scoped_mapSlot : (t.mapSlot k).Scoped t.params t.home := by
  refine t.scoped_of_fixed ["U", "F"] ["self", "f"] rfl rfl (by decide) ?_
  intro scope hslots hown hhome
  exact
    { params := List.forall_mem_singleton.mpr (covers_param (hown (by simp)))
      result := Ty.covers_tuple.mpr (covers_typesWith hslots (hown (by simp)) k)
      bounds := t.covers_slotBounds hk hslots hown }

theorem scoped_tryMapSlot : (t.tryMapSlot k).Scoped t.params t.home := by
  refine t.scoped_of_fixed ["U", "F"] ["self", "f"] rfl rfl (by decide) ?_
  intro scope hslots hown hhome
  have hfunction : Covers scope (Ty.param "F").tokens := covers_param (hown (by simp))
  have htuple : Covers scope (Ty.tuple (t.typesWith k)).tokens :=
    Ty.covers_tuple.mpr (covers_typesWith hslots (hown (by simp)) k)
  exact
    { params := List.forall_mem_singleton.mpr (Ty.covers_option.mpr hfunction)
      result := Ty.covers_result.mpr ⟨htuple, covers_fault hhome⟩
      bounds := t.covers_slotBounds hk hslots hown }

end Position

end Letters

section Series

variable {stem : String} {n : Nat}

/-- A numbered name of a value is not spelled like a type parameter. -/
theorem lower_of_mem_series (hstem : stem ≠ "") (hlower : isParam stem = false) :
    ∀ name ∈ series stem n, isParam name = false := by
  intro name hname
  obtain ⟨k, -, rfl⟩ := List.mem_map.mp hname
  rw [isParam_numberedName hstem, hlower]

/-- Values with numbers of their own beside the tuple that a method is called on. -/
theorem nodup_self_series : ("self" :: series stem n).Nodup := by
  refine List.nodup_cons.mpr ⟨?_, nodup_series stem n⟩
  intro hself
  obtain ⟨k, -, hname⟩ := List.mem_map.mp hself
  exact (show Digitless "self" by decide).ne_numberedName stem (k + 1) hname.symm

theorem names_zip {values : List String} {types : List Ty}
    (hlength : values.length = types.length) :
    ((values.map Pattern.name).zip types).flatMap (fun param => param.1.names) = values := by
  induction values generalizing types with
  | nil => rfl
  | cons value rest ih =>
    cases types with
    | nil => cases hlength
    | cons type others =>
      have hrest := ih (Nat.succ.inj hlength)
      simp [hrest]

theorem covers_zip {α : Type} {scope : List String} {keys : List α} {types : List Ty}
    (htypes : ∀ type ∈ types, Covers scope type.tokens) :
    ∀ entry ∈ keys.zip types, Covers scope entry.2.tokens := by
  intro entry hentry
  exact htypes entry.2 (List.of_mem_zip hentry).2

end Series

/-- The slots as names of values. -/
theorem plain_fields : t.fields.Nodup ∧ ∀ name ∈ t.fields, isParam name = false :=
  ⟨nodup_series "t" t.arity, lower_of_mem_series (by decide) (by decide)⟩

theorem scoped_buildAll : t.buildAll.Scoped t.params t.home := by
  have hnames : t.buildAll.valueNames = t.fields := by
    simp [Method.valueNames, buildAll, names_zip, fields]
  refine t.scoped_of_slots t.fields rfl rfl hnames t.plain_fields ?_ fun _ _ => Ty.covers_self
  exact fun _ hslots => covers_zip (covers_types hslots)

theorem scoped_wrapNative : t.wrapNative.Scoped t.params t.home := by
  have hnames : t.wrapNative.valueNames = t.fields := by
    simp [Method.valueNames, wrapNative, Pattern.names]
  refine t.scoped_of_slots t.fields rfl rfl hnames t.plain_fields ?_ fun _ _ => Ty.covers_self
  exact fun _ hslots => List.forall_mem_singleton.mpr (covers_nativeType hslots)

theorem scoped_comparatorMethod : t.comparatorMethod.Scoped t.params t.home := by
  have hnames : t.comparatorMethod.valueNames = series "c" t.arity := by
    simp [Method.valueNames, comparatorMethod, names_zip]
  refine Method.scoped_of_names (series "C" t.arity) (series "c" t.arity) rfl hnames
    (t.nodup_params_append_series (by decide) (by decide) t.arity)
    (isParam_of_mem_series (by decide)) (nodup_series "c" t.arity)
    (lower_of_mem_series (by decide) (by decide)) ?_
  intro scope hslots hown hhome
  have hcomparison : ∀ type ∈ t.types.map comparison, Covers scope type.tokens := by
    rw [List.forall_mem_map]
    intro type htype
    simp [comparison, covers_types hslots type htype]
  exact
    { params := covers_zip (covers_params hown)
      result := by simp [comparatorMethod, comparison]
      bounds := fun bound hbound =>
        ⟨hown (List.of_mem_zip hbound).1, covers_zip hcomparison bound hbound⟩ }

section Each

/-- The parameters of an operation with a function for each slot. -/
theorem nodup_params_append_eachGenerics : (t.params ++ t.eachGenerics).Nodup := by
  rw [eachGenerics, ← List.append_assoc]
  refine (t.nodup_params_append_series (by decide) (by decide) t.arity).append
    (nodup_series "F" t.arity) ?_
  rw [List.disjoint_append_left]
  exact ⟨disjoint_series (by decide) (by decide) (by decide) t.arity t.arity,
    disjoint_series (by decide) (by decide) (by decide) t.arity t.arity⟩

theorem isParam_of_mem_eachGenerics : ∀ name ∈ t.eachGenerics, isParam name = true := by
  rw [eachGenerics, List.forall_mem_append]
  exact ⟨isParam_of_mem_series (by decide), isParam_of_mem_series (by decide)⟩

variable {t} {scope : List String}

theorem covers_eachTypes (hown : t.eachGenerics ⊆ scope) :
    ∀ type ∈ t.eachTypes, Covers scope type.tokens :=
  covers_params (List.append_subset.mp hown).1

theorem covers_eachBounds (hslots : t.params ⊆ scope) (hown : t.eachGenerics ⊆ scope) :
    ∀ bound ∈ t.eachBounds, bound.1 ∈ scope ∧ Covers scope bound.2.tokens := by
  have hfunctions : ∀ type ∈ List.zipWith (fun input output => function [input] output) t.types
      t.eachTypes, Covers scope type.tokens := by
    rw [← List.map_uncurry_zip_eq_zipWith, List.forall_mem_map]
    intro pair hpair
    have hparts := List.of_mem_zip hpair
    change Covers scope (function [pair.1] pair.2).tokens
    simp [function, covers_types hslots _ hparts.1, covers_eachTypes hown _ hparts.2]
  intro bound hbound
  exact ⟨(List.append_subset.mp hown).2 (List.of_mem_zip hbound).1,
    covers_zip hfunctions bound hbound⟩

variable (t)

/-- Both operations with a function for each slot bind the tuple and the functions. -/
theorem scoped_of_each {m : Method} (hown : m.generics = t.eachGenerics)
    (hnames : m.valueNames = "self" :: series "f" t.arity)
    (hcovered : ∀ scope, t.params ⊆ scope → t.eachGenerics ⊆ scope → Covers scope t.home →
      m.CoveredBy scope) : m.Scoped t.params t.home := by
  refine Method.scoped_of_names _ _ hown hnames t.nodup_params_append_eachGenerics
    t.isParam_of_mem_eachGenerics nodup_self_series ?_ hcovered
  rw [List.forall_mem_cons]
  exact ⟨by decide, lower_of_mem_series (by decide) (by decide)⟩

theorem scoped_mapEach : t.mapEach.Scoped t.params t.home := by
  refine t.scoped_of_each rfl ?_ ?_
  · simp [Method.valueNames, mapEach, names_zip]
  · intro scope hslots hown hhome
    exact
      { params := covers_zip (covers_params (List.append_subset.mp hown).2)
        result := Ty.covers_tuple.mpr (covers_eachTypes hown)
        bounds := covers_eachBounds hslots hown }

theorem scoped_tryMapEach : t.tryMapEach.Scoped t.params t.home := by
  refine t.scoped_of_each rfl ?_ ?_
  · simp [Method.valueNames, tryMapEach, names_zip]
  · intro scope hslots hown hhome
    have hoptions : ∀ type ∈ (series "F" t.arity).map fun f => Ty.option (.param f),
        Covers scope type.tokens := by
      rw [List.forall_mem_map]
      intro name hname
      simp [(List.append_subset.mp hown).2 hname]
    exact
      { params := covers_zip hoptions
        result := Ty.covers_result.mpr
          ⟨Ty.covers_tuple.mpr (covers_eachTypes hown), covers_fault hhome⟩
        bounds := covers_eachBounds hslots hown }

end Each

section Joins

/-- The parameters of joining, those of both tuples. -/
theorem nodup_joinParams (m : Nat) : (t.params ++ series "U" m).Nodup :=
  t.nodup_params_append_series (by decide) (by decide) m

theorem covers_rightTypes {scope : List String} {m : Nat} (hright : series "U" m ⊆ scope) :
    ∀ type ∈ rightTypes m, Covers scope type.tokens :=
  covers_params hright

theorem scoped_join (m : Nat) : (t.join m).Scoped (t.params ++ series "U" m) t.home := by
  have hnames : (t.join m).valueNames = if m = 0 then ["self"] else ["self", "rhs"] := by
    by_cases hm : m = 0
    · simp [Method.valueNames, join, hm, Pattern.names]
    · simp [Method.valueNames, join, hm]
  refine Method.scoped_of_plain _ rfl rfl hnames (t.nodup_joinParams m) ?_ ?_ ?_
  · split <;> decide
  · intro scope hparams
    have hright := covers_rightTypes (List.append_subset.mp hparams).2
    exact List.forall_mem_singleton.mpr (Ty.covers_tuple.mpr hright)
  · intro scope hparams
    simp +decide [join]

theorem scoped_joinOptional (m : Nat) :
    (t.joinOptional m).Scoped (t.params ++ series "U" m) t.home := by
  refine Method.scoped_of_plain ["self", "rhs"] rfl rfl rfl (t.nodup_joinParams m) (by decide) ?_ ?_
  · intro scope hparams
    have hright := covers_rightTypes (List.append_subset.mp hparams).2
    exact List.forall_mem_singleton.mpr (Ty.covers_option.mpr (Ty.covers_tuple.mpr hright))
  · intro scope hparams
    simp +decide [joinOptional]

end Joins

end Template

end Polyad
