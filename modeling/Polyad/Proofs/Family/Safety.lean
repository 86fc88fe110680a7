import Polyad.Proofs.Family.Closure
import Polyad.Proofs.Lexical.Exponents
/-!
What can stop the expansion of a template before its end. Every position that it looks up
is there and every name that it makes is an identifier, so only the room below the ceiling
is in question, which is a difference of words.
-/

namespace Polyad

open Code

namespace Identifier

theorem ofName_cons_eq_ok {c : Char} {rest : List Char} :
    ofName (c :: rest) = .ok (c :: rest) ↔
      (c :: rest).all Char.isDigit = false ∧
        (Alphabet.isStart c && rest.all Alphabet.isContinue) = true := by
  rw [ofName]
  by_cases hdigits : (c :: rest).all Char.isDigit = true
  · rw [if_pos hdigits]
    exact iff_of_false nofun fun hname => Bool.false_ne_true (hname.1.symm.trans hdigits)
  · rw [if_neg hdigits, and_iff_right (Bool.eq_false_iff.mpr hdigits)]
    split
    · exact iff_of_true rfl ‹_›
    · exact iff_of_false nofun ‹_›

/-- An identifier stays one with digits behind it. -/
theorem ofName_append_digits {name digits : List Char} (hname : ofName name = .ok name)
    (hdigits : ∀ c ∈ digits, c.isDigit = true) :
    ofName (name ++ digits) = .ok (name ++ digits) := by
  have hcontinue : digits.all Alphabet.isContinue = true := by
    rw [List.all_eq_true]
    intro c hc
    refine Number.isContinue_of_isDigit ?_
    rw [Number.isDigit, hdigits c hc, Bool.true_or]
  cases name with
  | nil => cases hname
  | cons c rest =>
    obtain ⟨hletter, hparts⟩ := ofName_cons_eq_ok.mp hname
    rw [List.cons_append, ofName_cons_eq_ok]
    constructor
    · rw [← List.cons_append, List.all_append, hletter, Bool.false_and]
    · rw [List.all_append, hcontinue, Bool.and_true]
      exact hparts

theorem ofName_numberedName {stem : String} (hstem : ofName stem.toList = .ok stem.toList)
    (number : Nat) :
    ofName (numberedName stem number).toList = .ok (numberedName stem number).toList := by
  rw [numberedName, String.toList_append]
  exact ofName_append_digits hstem fun c hc => isDigit_of_mem_toString hc

end Identifier

/-- Why an expansion stops before its end. -/
inductive Stop where
  | overflow (reason : Overflow)
  /-- A position that a list does not have. -/
  | outside (position length : Nat)
  /-- A name that is no identifier. -/
  | name (reason : Identifier.Error)
  deriving DecidableEq, Repr

namespace Checked

section Positions

variable {α : Type}

def read (l : List α) (k : Nat) : Except Stop α :=
  match l[k]? with
  | some a => .ok a
  | none => .error (.outside k l.length)

def replace (l : List α) (k : Nat) (a : α) : Except Stop (List α) :=
  if k < l.length then .ok (l.set k a) else .error (.outside k l.length)

def remove (l : List α) (k : Nat) : Except Stop (List α) :=
  if k < l.length then .ok (l.eraseIdx k) else .error (.outside k l.length)

variable {l : List α} {k : Nat}

theorem read_eq {a : α} (hk : l[k]? = some a) : read l k = .ok a := by
  rw [read, hk]

theorem replace_eq (hk : k < l.length) (a : α) : replace l k a = .ok (l.set k a) :=
  if_pos hk

theorem remove_eq (hk : k < l.length) : remove l k = .ok (l.eraseIdx k) :=
  if_pos hk

end Positions

/-- The number of the slot at a position. -/
def number (position : Nat) : Except Stop Nat :=
  (addWords position 1).mapError .overflow

theorem number_eq {k n : Nat} (hk : k < n) (hn : n < wordCount) : number k = .ok (k + 1) := by
  have hsum : k + 1 < wordCount := by omega
  rw [number, addWords, if_pos hsum]
  rfl

/-- A numbered name, if it is an identifier. -/
def name (stem : String) (number : Nat) : Except Stop String :=
  ((Identifier.ofName (numberedName stem number).toList).mapError Stop.name).map String.ofList

/-- Stems that are identifiers. -/
def Stem (stem : String) : Prop :=
  Identifier.ofName stem.toList = .ok stem.toList

instance (stem : String) : Decidable (Stem stem) :=
  inferInstanceAs (Decidable (_ = _))

theorem name_eq {stem : String} (hstem : Stem stem) (number : Nat) :
    name stem number = .ok (numberedName stem number) := by
  rw [name, Identifier.ofName_numberedName hstem]
  change Except.ok (String.ofList (numberedName stem number).toList) = _
  rw [String.ofList_toList]

/-- Names with one stem, if all of them are identifiers. -/
def names (stem : String) (count : Nat) : Except Stop (List String) :=
  (List.range count).mapM fun k => name stem (k + 1)

theorem names_eq {stem : String} (hstem : Stem stem) (count : Nat) :
    names stem count = .ok (series stem count) :=
  Family.mapM_eq_ok fun k _ => name_eq hstem (k + 1)

end Checked

namespace Template

open Checked

variable (t : Template)

/-- `readSlot` for the slot at a position, whose number is a sum. -/
def checkedReader (entry : (String × String) × Nat) : Except Stop Method := do
  let number ← number entry.2
  return { readSlot number with
    name := entry.1.1
    result := .ref (.param entry.1.2)
    body := yield (.ref (.slot entry.1.1)) }

/-- The operations on the slot at a position, which is looked up and changed in lists of
    types and of values. -/
def checkedSlot (params fields : List String) (k : Nat) : Except Stop (List Method) := do
  let number ← number k
  let update ← name "update" number
  let remove ← name "remove" number
  let map ← name "map" number
  let tryMap ← name "try_map" number
  let target ← read params k
  let field ← read fields k
  let replaced ← replace (params.map Ty.param) k (.param "U")
  let updated ← replace (fields.map Expr.slot) k (.var "value")
  let mapped ← replace (fields.map Expr.slot) k (.call (.var "f") [.slot field])
  let remaining ← Checked.remove (params.map Ty.param) k
  let kept ← Checked.remove (fields.map Expr.slot) k
  let bounds := [("F", function [.param target] (.param "U"))]
  return [
    { t.setSlot k with
      name := update, result := .tuple replaced, body := yield (.tuple updated) },
    { t.eraseSlot k with
      name := remove, result := .tuple remaining, body := yield (.tuple kept) },
    { t.mapSlot k with
      name := map, result := .tuple replaced, bounds, body := yield (.tuple mapped) },
    { t.tryMapSlot k with
      name := tryMap, result := .result (.tuple replaced) t.fault, bounds
      body := { stmts := [t.demand map "f"], result := .ok (.method .self map [.var "f"]) } }]

/-- Joining with the tuples of `m` slots, whose parameters and slots have names. -/
def checkedJoin (m : Nat) : Except Stop Item := do
  let _ ← ["U", "t"].mapM fun stem => names stem m
  return t.joinItem m

/-- Every item for one arity, where each sum and difference, each access to a position and
    each name that is made can end the expansion. -/
def checkedItems : Except Stop (List Item) := do
  let params ← names "T" t.arity
  let fields ← names "t" t.arity
  let _ ← ["C", "c", "U", "F", "f"].mapM fun stem => names stem t.arity
  let readers ← (fields.zip params).zipIdx.mapM checkedReader
  let slots ← (List.range t.arity).mapM (t.checkedSlot params fields)
  let room ← (subtractWords t.ceiling t.arity).mapError Stop.overflow
  let joins ← (List.range (room + 1)).mapM t.checkedJoin
  let access := Item.methods (Param.free params) t.type
    ([t.buildAll] ++ readers ++ [t.unwrapAll, t.borrowAll])
  let changes := Item.methods (Param.free params) t.type slots.flatten
  let items := [t.typeItem, access] ++ t.emptyItems ++ t.membershipItems ++ t.nativeItems ++
    [t.displayItem, t.debugItem, t.testDataItem] ++ t.orderItems ++ [changes, t.wholeItem] ++
    t.pushItems ++ joins
  let _ ← (items.flatMap Item.arities).mapM (name "Tuple")
  return items

theorem checkedSlot_eq {k : Nat} (hk : k < t.arity) (harity : t.arity < wordCount) :
    t.checkedSlot t.params t.fields k =
      .ok [t.setSlot k, t.eraseSlot k, t.mapSlot k, t.tryMapSlot k] := by
  have htarget : t.params[k]? = some (numberedName "T" (k + 1)) := by
    simp [params, series, hk]
  have hfield : t.fields[k]? = some (numberedName "t" (k + 1)) := by
    simp [fields, series, hk]
  have htypes : k < (t.params.map Ty.param).length := by
    simpa [params] using hk
  have hslots : k < (t.fields.map Expr.slot).length := by
    simpa [fields] using hk
  have hupdate : Stem "update" := by decide
  have hremove : Stem "remove" := by decide
  have hmap : Stem "map" := by decide
  have htryMap : Stem "try_map" := by decide
  simp only [checkedSlot, number_eq hk harity, name_eq hupdate, name_eq hremove, name_eq hmap,
    name_eq htryMap, read_eq htarget, read_eq hfield, replace_eq htypes, replace_eq hslots,
    remove_eq htypes, remove_eq hslots, bind, Except.bind]
  rfl

theorem checkedReader_eq {k : Nat} (hk : k < t.arity) (harity : t.arity < wordCount) :
    checkedReader ((numberedName "t" (k + 1), numberedName "T" (k + 1)), k) =
      .ok (readSlot (k + 1)) := by
  simp only [checkedReader, number_eq hk harity, bind, Except.bind]
  rfl

theorem checkedJoin_eq (m : Nat) : t.checkedJoin m = .ok (t.joinItem m) := by
  have hnames : (["U", "t"].mapM fun stem => names stem m) =
      .ok (["U", "t"].map fun stem => series stem m) := by
    refine Family.mapM_eq_ok ?_
    have hstems : ∀ stem ∈ ["U", "t"], Stem stem := by decide
    exact fun stem hstem => names_eq (hstems stem hstem) m
  rw [checkedJoin, hnames]
  rfl

theorem zipIdx_fields_params :
    (t.fields.zip t.params).zipIdx = (List.range t.arity).map fun k =>
      ((numberedName "t" (k + 1), numberedName "T" (k + 1)), k) := by
  apply List.ext_getElem (by simp [fields, params])
  intro k hleft hright
  simp [fields, params, series]

theorem readers_eq (harity : t.arity < wordCount) :
    (t.fields.zip t.params).zipIdx.mapM checkedReader = .ok (t.numbers.map readSlot) := by
  have hentry : ∀ entry ∈ (t.fields.zip t.params).zipIdx,
      checkedReader entry = .ok (readSlot (entry.2 + 1)) := by
    rw [zipIdx_fields_params, List.forall_mem_map]
    intro k hk
    exact t.checkedReader_eq (List.mem_range.mp hk) harity
  rw [Family.mapM_eq_ok hentry, zipIdx_fields_params]
  simp [numbers, Function.comp_def]

theorem slots_mapM_eq (harity : t.arity < wordCount) :
    (List.range t.arity).mapM (t.checkedSlot t.params t.fields) =
      .ok ((List.range t.arity).map fun k =>
        [t.setSlot k, t.eraseSlot k, t.mapSlot k, t.tryMapSlot k]) :=
  Family.mapM_eq_ok fun _ hk => t.checkedSlot_eq (List.mem_range.mp hk) harity

theorem items_of_lt (hceiling : t.ceiling < t.arity) : t.items = .error .subtract := by
  rw [items, joinItems, subtractWords, if_neg (Nat.not_le.mpr hceiling)]
  rfl

/-- Nothing but the difference of the ceiling and the arity can stop an expansion. -/
theorem checkedItems_eq (harity : t.arity < wordCount) :
    t.checkedItems = t.items.mapError .overflow := by
  have hparams : names "T" t.arity = .ok t.params := names_eq (by decide) t.arity
  have hfields : names "t" t.arity = .ok t.fields := names_eq (by decide) t.arity
  have hothers : (["C", "c", "U", "F", "f"].mapM fun stem => names stem t.arity) =
      .ok (["C", "c", "U", "F", "f"].map fun stem => series stem t.arity) := by
    have hstems : ∀ stem ∈ ["C", "c", "U", "F", "f"], Stem stem := by decide
    exact Family.mapM_eq_ok fun stem hstem => names_eq (hstems stem hstem) t.arity
  have htuples (sizes : List Nat) :
      sizes.mapM (name "Tuple") = .ok (sizes.map (numberedName "Tuple")) :=
    Family.mapM_eq_ok fun size _ => name_eq (by decide) size
  simp only [checkedItems, hparams, hfields, hothers, t.readers_eq harity, t.slots_mapM_eq harity,
    bind, Except.bind]
  by_cases hceiling : t.ceiling < t.arity
  · rw [t.items_of_lt hceiling, subtractWords, if_neg (Nat.not_le.mpr hceiling)]
    rfl
  · have hroom : t.arity ≤ t.ceiling := Nat.le_of_not_lt hceiling
    have hjoins : (List.range (t.ceiling - t.arity + 1)).mapM t.checkedJoin =
        .ok ((List.range (t.ceiling - t.arity + 1)).map t.joinItem) :=
      Family.mapM_eq_ok fun m _ => t.checkedJoin_eq m
    rw [t.items_eq hroom, subtractWords, if_pos hroom]
    simp only [Except.mapError, hjoins, htuples, ← List.flatMap_def]
    rfl

/-- An expansion either stays within its ceiling or stops because of it. -/
structure Confined : Prop where
  /-- No position that is looked up is missing and no name that is made is malformed. -/
  checked : t.checkedItems = t.items.mapError .overflow
  completes : (∃ items, t.items = .ok items) ↔ t.arity ≤ t.ceiling
  stops : ∀ reason, t.items = .error reason ↔ reason = .subtract ∧ t.ceiling < t.arity
  /-- Nothing that is generated exceeds the ceiling. -/
  within : ∀ items, t.items = .ok items → ∀ size ∈ items.flatMap Item.arities, size ≤ t.ceiling
  /-- There is growth by one slot below the ceiling only, whether or not the joins after it
      can be generated. -/
  growth : ∀ name ∈ ["prepend", "append"],
    ((t.fixedItems ++ t.pushItems).flatMap Item.methodNames).count (t.arity, name) =
      if t.arity < t.ceiling then 1 else 0
  joins : ∀ items, t.items = .ok items → ∀ n m,
    (items.filterMap Item.joined?).count (n, m) =
      if n = t.arity ∧ n + m ≤ t.ceiling then 1 else 0

/-- Joining gives the type no methods of its own. -/
theorem methodNames_unjoined :
    (t.fixedItems ++ t.pushItems).flatMap Item.methodNames =
      t.boundedItems.flatMap Item.methodNames := by
  have hjoins : ((List.range (t.ceiling - t.arity + 1)).map t.joinItem).flatMap
      Item.methodNames = [] := by
    rw [List.flatMap_map, List.flatMap_eq_nil_iff]
    exact fun m hm => rfl
  simp only [boundedItems, List.flatMap_append, hjoins, List.append_nil]

theorem count_growth_unjoined {name : String} (hname : name ∈ ["prepend", "append"]) :
    ((t.fixedItems ++ t.pushItems).flatMap Item.methodNames).count (t.arity, name) =
      if t.arity < t.ceiling then 1 else 0 := by
  rw [methodNames_unjoined, t.nodup_methodNames.count]
  refine if_congr ?_ rfl rfl
  rw [t.mem_methodNames, t.growth_mem_names hname]
  exact and_iff_right rfl

theorem count_joined (hceiling : t.arity ≤ t.ceiling) (n m : Nat) :
    (t.boundedItems.filterMap Item.joined?).count (n, m) =
      if n = t.arity ∧ n + m ≤ t.ceiling then 1 else 0 := by
  have hnodup : ((List.range (t.ceiling - t.arity + 1)).map fun m => (t.arity, m)).Nodup :=
    List.nodup_range.map fun a b hpair => congrArg Prod.snd hpair
  rw [joined_boundedItems, hnodup.count]
  refine if_congr ?_ rfl rfl
  simp only [List.mem_map, List.mem_range, Prod.mk.injEq]
  constructor
  · rintro ⟨k, hk, rfl, rfl⟩
    exact ⟨rfl, by omega⟩
  · rintro ⟨rfl, hsum⟩
    exact ⟨m, by omega, rfl, rfl⟩

/-- Up to the ceiling every expansion comes to its end. Past it there is no room, and the
    difference that gives the room is no word. -/
theorem expansion_stops_past_ceiling (harity : t.arity < wordCount) : t.Confined := by
  obtain hceiling | hceiling := Nat.lt_or_ge t.ceiling t.arity
  · have hitems := t.items_of_lt hceiling
    have hpast : ¬ t.arity ≤ t.ceiling := Nat.not_le.mpr hceiling
    exact
      { checked := t.checkedItems_eq harity
        completes := by simp [hitems, hpast]
        stops := by simp [hitems, hceiling, eq_comm]
        within := by simp [hitems]
        growth := fun _ hname => t.count_growth_unjoined hname
        joins := by simp [hitems] }
  · have hitems := t.items_eq hceiling
    have hpast : ¬ t.ceiling < t.arity := Nat.not_lt.mpr hceiling
    refine
      { checked := t.checkedItems_eq harity
        completes := by simp [hitems, hceiling]
        stops := by simp [hitems, hpast]
        within := ?_
        growth := fun _ hname => t.count_growth_unjoined hname
        joins := ?_ }
    · intro items hresult
      cases hitems.symm.trans hresult
      exact t.le_ceiling_of_mem_boundedItems hceiling
    · intro items hresult
      cases hitems.symm.trans hresult
      exact t.count_joined hceiling

/-- One slot in a family that has none. -/
theorem expansion_stops_past_ceiling_one_slot :
    1 < wordCount ∧ (Template.mk 1 0 [.word "crate"]).Confined :=
  ⟨by decide, expansion_stops_past_ceiling (Template.mk 1 0 [.word "crate"]) (by decide)⟩

/-- Both numbers are words, and still there is no expansion, not even one without joins. -/
theorem one_slot_stops_under_zero :
    (1 < wordCount ∧ 0 < wordCount) ∧
      (Template.mk 1 0 [.word "crate"]).items = .error .subtract :=
  ⟨by decide, items_of_lt _ (by decide)⟩

end Template

end Polyad
