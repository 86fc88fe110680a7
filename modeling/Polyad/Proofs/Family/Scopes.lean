import Polyad.Proofs.Family.Mentions
/-!
When names in generated code do not get in each other's way. What an item and a method of
it declare is declared once, no two parameters of a method have one name, and a signature
mentions no type parameter that is not declared around it.
-/

namespace Polyad.Code

namespace Pattern

/-- The names that a pattern binds. -/
def names : Pattern → List String
  | name n => [n]
  | native ns => ns
  | ignored => []

@[simp] theorem names_name (n : String) : (name n).names = [n] := rfl

theorem covers_tokens {scope : List String} {p : Pattern}
    (hnames : ∀ name ∈ p.names, isParam name = false) : Covers scope p.tokens := by
  cases p with
  | name n => simp [tokens, hnames n List.mem_cons_self]
  | ignored => simp +decide [tokens]
  | native ns =>
    rw [tokens, covers_parenthesized, covers_terminated, List.forall_mem_map]
    intro name hname
    simp [hnames name hname]

end Pattern

namespace Method

/-- The names of the values that a method is called with. -/
def valueNames (m : Method) : List String :=
  (m.receiver.map fun _ => "self").toList ++ m.params.flatMap fun param => param.1.names

/-- The bounds of a method, if there are any. -/
def whereTokens (m : Method) : List Token :=
  if m.bounds.isEmpty then [] else
    .word "where" :: terminated (m.bounds.map fun bound => words [bound.1, ":"] ++ bound.2.tokens)

/-- What a method declares: its type parameters, the values that it is called
    with, its result and the bounds. -/
def signature (m : Method) : List Token :=
  angled (m.generics.map fun name => [.word name]) ++
    parenthesized (if m.trailing then terminated m.inputs else separated m.inputs) ++
    .word "->" :: m.result.tokens ++ m.whereTokens

theorem tokens_eq (m : Method) :
    m.tokens = m.notes.flatMap Note.tokens ++ m.access.tokens ++ words ["fn", m.name] ++
      m.signature ++ m.body.tokens := by
  simp [tokens, signature, whereTokens]

/-- The types in a signature mention no type parameter that is not in scope, and
    every bound is on one that is. -/
structure CoveredBy (scope : List String) (m : Method) : Prop where
  params : ∀ param ∈ m.params, Covers scope param.2.tokens
  result : Covers scope m.result.tokens
  bounds : ∀ bound ∈ m.bounds, bound.1 ∈ scope ∧ Covers scope bound.2.tokens

namespace CoveredBy

variable {scope : List String} {m : Method} (hcovered : m.CoveredBy scope)

include hcovered

theorem inputs (hvalues : ∀ name ∈ m.valueNames, isParam name = false) :
    ∀ input ∈ m.inputs, Covers scope input := by
  have hcolon : isParam ":" = false := by decide
  have hreceiver : ∀ input ∈ (m.receiver.map Receiver.tokens).toList, Covers scope input := by
    cases m.receiver with
    | none => simp
    | some r => cases r <;> simp +decide [Receiver.tokens]
  rw [Method.inputs, List.forall_mem_append, List.forall_mem_map]
  refine ⟨hreceiver, ?_⟩
  intro param hparam
  have hpattern : Covers scope param.1.tokens := by
    refine Pattern.covers_tokens ?_
    intro name hname
    exact hvalues name (List.mem_append_right _ (List.mem_flatMap.mpr ⟨param, hparam, hname⟩))
  simp [hpattern, hcovered.params param hparam, hcolon]

theorem whereTokens : Covers scope m.whereTokens := by
  have hcolon : isParam ":" = false := by decide
  have hwhere : isParam "where" = false := by decide
  rw [Method.whereTokens]
  split
  · exact covers_nil
  · rw [covers_word, covers_terminated, List.forall_mem_map]
    refine ⟨by simp [hwhere], ?_⟩
    intro bound hbound
    simp [hcovered.bounds bound hbound, hcolon]

/-- What a method binds is spelled apart from type parameters, so only the types of
    its signature decide what has to be in scope. -/
theorem signature (hgenerics : m.generics ⊆ scope)
    (hvalues : ∀ name ∈ m.valueNames, isParam name = false) : Covers scope m.signature := by
  have harrow : isParam "->" = false := by decide
  have hown : Covers scope (angled (m.generics.map fun name => [.word name])) := by
    rw [covers_angled, List.forall_mem_map]
    intro name hname
    simp [hgenerics hname]
  have hinputs : Covers scope (if m.trailing then terminated m.inputs else separated m.inputs) := by
    split
    · exact covers_terminated.mpr (hcovered.inputs hvalues)
    · exact covers_separated.mpr (hcovered.inputs hvalues)
  simp only [Method.signature, covers_append, covers_word, covers_parenthesized]
  exact ⟨⟨⟨hown, hinputs⟩, by simp [harrow], hcovered.result⟩, hcovered.whereTokens⟩

end CoveredBy

/-- A method inside an item that declares some type parameters: it hides none
    of them, its own ones and its values have names of their own, and its
    signature mentions no type parameter that neither of the two declares. The
    path to where the family lives is not taken for one. -/
structure Scoped (outer : List String) (home : List Token) (m : Method) : Prop where
  generics : (outer ++ m.generics).Nodup
  spelled : ∀ name ∈ m.generics, isParam name = true
  values : m.valueNames.Nodup
  declared : Covers (outer ++ (m.generics ++ allWords home)) m.signature

theorem scoped_of_names {outer : List String} {home : List Token} {m : Method}
    (own values : List String) (hown : m.generics = own) (hnames : m.valueNames = values)
    (hfree : (outer ++ own).Nodup) (hspelled : ∀ name ∈ own, isParam name = true)
    (hvalues : values.Nodup) (hlower : ∀ name ∈ values, isParam name = false)
    (hcovered : ∀ scope, outer ⊆ scope → own ⊆ scope → Covers scope home → m.CoveredBy scope) :
    m.Scoped outer home := by
  subst hown hnames
  obtain ⟨houter, hrest⟩ := List.append_subset.mp
    (List.Subset.refl (outer ++ (m.generics ++ allWords home)))
  obtain ⟨hown, hhome⟩ := List.append_subset.mp hrest
  have hsignature := (hcovered _ houter hown ((covers_allWords home).mono hhome)).signature
    hown hlower
  exact ⟨hfree, hspelled, hvalues, hsignature⟩

/-- A method that declares no type parameters has to get by with those around it. -/
theorem scoped_of_plain {outer : List String} {home : List Token} {m : Method}
    (values : List String) (hown : m.generics = []) (hbounds : m.bounds = [])
    (hnames : m.valueNames = values) (houter : outer.Nodup)
    (hvalues : values.Nodup ∧ ∀ name ∈ values, isParam name = false)
    (hparams : ∀ scope, outer ⊆ scope → ∀ param ∈ m.params, Covers scope param.2.tokens)
    (hresult : ∀ scope, outer ⊆ scope → Covers scope m.result.tokens) :
    m.Scoped outer home := by
  have hfree : (outer ++ []).Nodup := by
    rwa [List.append_nil]
  refine scoped_of_names [] values hown hnames hfree (by simp) hvalues.1 hvalues.2 ?_
  intro scope hslots _ _
  exact
    { params := hparams scope hslots
      result := hresult scope hslots
      bounds := by simp [hbounds] }

end Method

/-- What the implementation of a trait holds is in order: the types and the methods. -/
def Member.Scoped (outer : List String) (home : List Token) : Member → Prop
  | .number name _ => isParam name = false
  | .type name t => isParam name = false ∧ Covers (outer ++ allWords home) t.tokens
  | .method m => m.Scoped outer home

namespace Item

/-- The type parameters that an item declares. -/
def paramNames : Item → List String
  | definition _ fields => fields.map Prod.snd
  | methods ps _ _ | implementation _ ps _ _ _ => ps.map Param.name
  | maxArity _ _ => []

/-- The names of the fields that an item declares. -/
def fieldNames : Item → List String
  | definition _ fields => fields.map Prod.fst
  | _ => []

/-- An item without its notes and methods. -/
def bare : Item → Item
  | maxArity _ ceiling => maxArity [] ceiling
  | definition _ fields => definition [] fields
  | methods ps target _ => methods ps target []
  | implementation _ ps trait target members =>
    implementation [] ps trait target <| members.filter fun member =>
      match member with
      | .method _ => false
      | _ => true

/-- An item whose type parameters and fields have names of their own, which
    mentions no other type parameters, and whose methods are in order. -/
structure Scoped (home : List Token) (item : Item) : Prop where
  params : item.paramNames.Nodup
  spelled : ∀ name ∈ item.paramNames, isParam name = true
  fields : item.fieldNames.Nodup
  declared : Covers (item.paramNames ++ allWords home) item.bare.tokens
  methods : ∀ m ∈ item.methodList, m.Scoped item.paramNames home

@[simp] theorem map_name_free (names : List String) :
    (Param.free names).map Param.name = names := by
  simp [Param.free, Function.comp_def]

@[simp] theorem map_name_bounded (names : List String) (bound : Ty) :
    (Param.bounded names bound).map Param.name = names := by
  simp [Param.bounded, Function.comp_def]

theorem covers_bounds_free {scope : List String} (names : List String) :
    ∀ p ∈ Param.free names, ∀ bound ∈ p.bound, Covers scope bound.tokens := by
  simp [Param.free]

theorem covers_bounds_bounded {scope : List String} {common : Ty} (names : List String)
    (hcommon : Covers scope common.tokens) :
    ∀ p ∈ Param.bounded names common, ∀ bound ∈ p.bound, Covers scope bound.tokens := by
  simp [Param.bounded, hcommon]

/-- Declaring parameters brings them in scope. -/
theorem covers_params {scope : List String} {ps : List Param}
    (hnames : ps.map Param.name ⊆ scope)
    (hbounds : ∀ p ∈ ps, ∀ bound ∈ p.bound, Covers scope bound.tokens) :
    Covers scope (Item.params ps) := by
  have hcolon : isParam ":" = false := by decide
  rw [Item.params, covers_angled, List.forall_mem_map]
  intro p hp
  have hname : p.name ∈ scope := hnames (List.mem_map_of_mem hp)
  cases hbound : p.bound with
  | none => simp [Param.tokens, hbound, hname]
  | some bound => simp [Param.tokens, hbound, hname, hcolon, hbounds p hp bound hbound]

section Scoped

variable {ps : List Param} {target : Ty} {home : List Token} {names : List String}

theorem scoped_of_methods {ms : List Method} (hnames : ps.map Param.name = names)
    (hnodup : names.Nodup) (hspelled : ∀ name ∈ names, isParam name = true)
    (hbounds : ∀ p ∈ ps, ∀ bound ∈ p.bound, Covers (names ++ allWords home) bound.tokens)
    (htarget : Covers (names ++ allWords home) target.tokens)
    (hmethods : ∀ m ∈ ms, m.Scoped names home) : (methods ps target ms).Scoped home := by
  subst hnames
  have hparams : Covers (ps.map Param.name ++ allWords home) (params ps) :=
    covers_params (List.subset_append_left _ _) hbounds
  exact
    { params := hnodup
      spelled := hspelled
      fields := List.nodup_nil
      declared := by simp +decide [bare, tokens, paramNames, hparams, htarget]
      methods := hmethods }

theorem scoped_of_implementation {notes : List Note} {trait : Ty} {members : List Member}
    (hnames : ps.map Param.name = names) (hnodup : names.Nodup)
    (hspelled : ∀ name ∈ names, isParam name = true)
    (hbounds : ∀ p ∈ ps, ∀ bound ∈ p.bound, Covers (names ++ allWords home) bound.tokens)
    (htrait : Covers (names ++ allWords home) trait.tokens)
    (htarget : Covers (names ++ allWords home) target.tokens)
    (hmembers : ∀ member ∈ members, member.Scoped names home) :
    (implementation notes ps trait target members).Scoped home := by
  subst hnames
  have hparams : Covers (ps.map Param.name ++ allWords home) (params ps) :=
    covers_params (List.subset_append_left _ _) hbounds
  have hmember : ∀ member ∈ members, (∀ m, member ≠ .method m) →
      Covers (ps.map Param.name ++ allWords home) member.tokens := by
    intro member hmem hother
    have hscoped := hmembers member hmem
    cases member with
    | number name value =>
      have hname : isParam name = false := hscoped
      simp +decide [Member.tokens, hname, isParam_sizeLiteral]
    | type name t => simp +decide [Member.tokens, hscoped.1, hscoped.2]
    | method m => exact absurd rfl (hother m)
  exact
    { params := hnodup
      spelled := hspelled
      fields := List.nodup_nil
      declared := by
        have himpl : isParam "impl" = false := by decide
        have hfor : isParam "for" = false := by decide
        simp only [bare, tokens, paramNames, List.flatMap_nil, List.nil_append, covers_append,
          covers_word, covers_braced, covers_flatMap, himpl, hfor, Bool.false_eq_true,
          false_imp_iff, true_and]
        refine ⟨⟨⟨hparams, htrait⟩, htarget⟩, ?_⟩
        intro member hmem
        obtain ⟨hmem, hkept⟩ := List.mem_filter.mp hmem
        refine hmember member hmem ?_
        rintro m rfl
        cases hkept
      methods := by
        intro m hm
        obtain ⟨member, hmem, hmethod⟩ := List.mem_filterMap.mp hm
        have hscoped := hmembers member hmem
        cases member with
        | number name value => cases hmethod
        | type name t => cases hmethod
        | method other =>
          cases hmethod
          exact hscoped }

end Scoped

end Item

end Polyad.Code
