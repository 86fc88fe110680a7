import Polyad.Family.Items
/-!
Which tuples generated code mentions, as types and as literals, and which of
them every method mentions.
-/

namespace Polyad

namespace Code

mutual

/-- The arities of the tuples in a type. -/
@[simp] def Ty.arities : Ty → List Nat
  | .param _ | .openLifetime => []
  | .path _ args | .native args => Ty.aritiesEach args
  | .tuple args => args.length :: Ty.aritiesEach args
  | .ref target | .refMut target | .some target | .iterator target => target.arities
  | .callable _ inputs output => Ty.aritiesEach inputs ++ output.arities

@[simp] def Ty.aritiesEach : List Ty → List Nat
  | [] => []
  | type :: rest => type.arities ++ Ty.aritiesEach rest

end

mutual

/-- The arities of the tuples in an expression, as literals or in types. -/
@[simp] def Expr.arities : Expr → List Nat
  | .var _ | .path _ | .text _ => []
  | .ofTrait type _ _ => type.arities
  | .field target _ | .ref target | .unwrapped target | .deferred target | .comparing target =>
    target.arities
  | .call function args => function.arities ++ Expr.aritiesEach args
  | .method target _ args => target.arities ++ Expr.aritiesEach args
  | .tuple values => values.length :: Expr.aritiesEach values
  | .tupleOfVars n => [n]
  | .native values => Expr.aritiesEach values
  | .byPresence target _ present absent => target.arities ++ present.arities ++ absent.arities

@[simp] def Expr.aritiesEach : List Expr → List Nat
  | [] => []
  | e :: rest => e.arities ++ Expr.aritiesEach rest

end

/-- The expression in a statement. -/
def Stmt.value : Stmt → Expr
  | .bind _ value => value
  | .run e => e

theorem Ty.aritiesEach_eq_flatMap (types : List Ty) :
    Ty.aritiesEach types = types.flatMap Ty.arities := by
  induction types with
  | nil => rfl
  | cons type rest ih => rw [Ty.aritiesEach, ih, List.flatMap_cons]

theorem Expr.aritiesEach_eq_flatMap (es : List Expr) :
    Expr.aritiesEach es = es.flatMap Expr.arities := by
  induction es with
  | nil => rfl
  | cons e rest ih => rw [Expr.aritiesEach, ih, List.flatMap_cons]

/-- The arities of the tuples in the signature and in the body of a method. -/
def Method.arities (m : Method) : List Nat :=
  m.params.flatMap (fun param => param.2.arities) ++ m.result.arities ++
    m.bounds.flatMap (fun bound => bound.2.arities) ++
    m.body.stmts.flatMap (fun stmt => stmt.value.arities) ++ m.body.result.arities

def Param.arities (param : Param) : List Nat :=
  param.bound.toList.flatMap Ty.arities

def Member.arities : Member → List Nat
  | .number _ _ => []
  | .type _ written => written.arities
  | .method m => m.arities

/-- The arities of the tuples that an item mentions anywhere. -/
def Item.arities : Item → List Nat
  | maxArity .. => []
  | definition _ fields => [fields.length]
  | methods params target ms =>
    params.flatMap Param.arities ++ target.arities ++ ms.flatMap Method.arities
  | implementation _ params trait target members =>
    params.flatMap Param.arities ++ trait.arities ++ target.arities ++
      members.flatMap Member.arities

end Code

open Code

namespace Template

variable (t : Template)

section Edits

variable {α β : Type} {f : α → List β} {l : List α}

theorem flatMap_set_eq_nil {a : α} {k : Nat} (hlist : l.flatMap f = []) (ha : f a = []) :
    (l.set k a).flatMap f = [] := by
  rw [List.flatMap_eq_nil_iff] at hlist ⊢
  intro b hb
  obtain hmem | rfl := List.mem_or_eq_of_mem_set hb
  · exact hlist b hmem
  · exact ha

theorem flatMap_eraseIdx_eq_nil {k : Nat} (hlist : l.flatMap f = []) :
    (l.eraseIdx k).flatMap f = [] := by
  rw [List.flatMap_eq_nil_iff] at hlist ⊢
  intro b hb
  exact hlist b (List.mem_of_mem_eraseIdx hb)

end Edits

@[simp] theorem arities_types : t.types.flatMap Ty.arities = [] := by
  simp [types]

@[simp] theorem arities_rightTypes (m : Nat) : (rightTypes m).flatMap Ty.arities = [] := by
  simp [rightTypes]

@[simp] theorem arities_eachTypes : t.eachTypes.flatMap Ty.arities = [] := by
  simp [eachTypes]

@[simp] theorem arities_typesWith (k : Nat) : (t.typesWith k).flatMap Ty.arities = [] :=
  flatMap_set_eq_nil t.arities_types (by simp)

@[simp] theorem arities_type : t.type.arities = [t.arity] := by
  simp [type, Ty.aritiesEach_eq_flatMap]

@[simp] theorem arities_slots : t.slots.flatMap Expr.arities = [] := by
  simp [slots, Expr.slot, Expr.self]

@[simp] theorem arities_rightSlots (m : Nat) : (rightSlots m).flatMap Expr.arities = [] := by
  simp [rightSlots]

@[simp] theorem arities_free (names : List String) :
    (Param.free names).flatMap Param.arities = [] := by
  simp [Param.free, Param.arities]

theorem arities_bounded {names : List String} {bound : Ty} (hbound : bound.arities = []) :
    (Param.bounded names bound).flatMap Param.arities = [] := by
  simp [Param.bounded, Param.arities, hbound]

section Methods

/-- Parameters and bounds are names with their types, one for each slot. -/
theorem arities_zip {α : Type} {names : List α} {types : List Ty}
    (htypes : types.flatMap Ty.arities = []) :
    (names.zip types).flatMap (fun named => named.2.arities) = [] := by
  rw [List.flatMap_eq_nil_iff] at htypes ⊢
  intro named hnamed
  exact htypes _ (List.of_mem_zip hnamed).2

theorem arities_buildAll : t.buildAll.arities = [t.arity] := by
  simp [buildAll, Method.arities, arities_zip t.arities_types, Ty.self, yield]

theorem arities_readSlot (number : Nat) : (readSlot number).arities = [] := by
  simp [readSlot, Method.arities, yield, Expr.slot, Expr.self]

theorem arities_unwrapAll : t.unwrapAll.arities = [] := by
  simp [unwrapAll, Method.arities, Ty.aritiesEach_eq_flatMap, yield, Expr.aritiesEach_eq_flatMap]

theorem arities_borrowAll : t.borrowAll.arities = [t.arity, t.arity] := by
  simp [borrowAll, Method.arities, Ty.aritiesEach_eq_flatMap, List.flatMap_map, yield,
    Expr.aritiesEach_eq_flatMap]

theorem arities_emptyTuple : t.emptyTuple.arities = [t.arity] := by
  simp [emptyTuple, Method.arities, Ty.self, yield, Expr.none, Expr.known,
    Expr.aritiesEach_eq_flatMap]

theorem arities_setSlot (k : Nat) : (t.setSlot k).arities = [t.arity, t.arity] := by
  have hvalues : (t.slots.set k (.var "value")).flatMap Expr.arities = [] :=
    flatMap_set_eq_nil t.arities_slots (by simp)
  simp [setSlot, Method.arities, Ty.aritiesEach_eq_flatMap, yield, Expr.aritiesEach_eq_flatMap,
    hvalues]

theorem arities_eraseSlot {k : Nat} (hk : k < t.arity) :
    (t.eraseSlot k).arities = [t.arity - 1, t.arity - 1] := by
  simp [eraseSlot, Method.arities, Ty.aritiesEach_eq_flatMap, yield, Expr.aritiesEach_eq_flatMap,
    flatMap_eraseIdx_eq_nil, List.length_eraseIdx, hk]

theorem arities_mapSlot (k : Nat) : (t.mapSlot k).arities = [t.arity, t.arity] := by
  have hvalues : (t.slots.set k (.call (.var "f") [.slot (numberedName "t" (k + 1))])).flatMap
      Expr.arities = [] :=
    flatMap_set_eq_nil t.arities_slots
      (by simp [Expr.slot, Expr.self])
  simp [mapSlot, function, Method.arities, Ty.aritiesEach_eq_flatMap, yield,
    Expr.aritiesEach_eq_flatMap, hvalues]

theorem arities_demand (operation argument : String) :
    (t.demand operation argument).value.arities = [] := by
  simp [demand, Stmt.value]

theorem arities_fault : t.fault.arities = [] := by
  simp [fault]

theorem arities_tryMapSlot (k : Nat) : (t.tryMapSlot k).arities = [t.arity] := by
  simp [tryMapSlot, function, Method.arities, Ty.option, Ty.result, Ty.aritiesEach_eq_flatMap,
    Expr.ok, Expr.known, Expr.self, arities_demand, arities_fault]

theorem arities_mapAll : t.mapAll.arities = [] := by
  simp [mapAll, function, member, Method.arities, Ty.aritiesEach_eq_flatMap, yield,
    Expr.aritiesEach_eq_flatMap]

theorem arities_tryMapAll : t.tryMapAll.arities = [] := by
  simp [tryMapAll, function, member, Method.arities, Ty.option, Ty.result,
    Ty.aritiesEach_eq_flatMap, Expr.ok, Expr.known, Expr.self, arities_demand, arities_fault]

theorem arities_applyAll : t.applyAll.arities = [] := by
  simp [applyAll, function, Method.arities, Ty.aritiesEach_eq_flatMap, yield,
    Expr.aritiesEach_eq_flatMap]

theorem arities_tryApplyAll : t.tryApplyAll.arities = [] := by
  simp [tryApplyAll, function, Method.arities, Ty.option, Ty.result, Ty.aritiesEach_eq_flatMap,
    Expr.ok, Expr.known, Expr.self, arities_demand, arities_fault]

theorem arities_eachBounds : t.eachBounds.flatMap (fun bound => bound.2.arities) = [] := by
  apply arities_zip
  simp [types, params, eachTypes, series, List.zipWith_map, function]

theorem arities_mapEach : t.mapEach.arities = [t.arity, t.arity] := by
  have htypes : ((series "F" t.arity).map Ty.param).flatMap Ty.arities = [] := by
    simp
  have hvalues : (List.zipWith (fun f slot => Expr.call (.var f) [slot]) (series "f" t.arity)
      t.slots).flatMap Expr.arities = [] := by
    simp [slots, fields, series, List.zipWith_map, Expr.slot, Expr.self]
  simp [mapEach, Method.arities, arities_zip htypes, arities_eachBounds, Ty.aritiesEach_eq_flatMap,
    yield, Expr.aritiesEach_eq_flatMap, hvalues]

theorem arities_tryMapEach : t.tryMapEach.arities = [t.arity] := by
  have htypes : ((series "F" t.arity).map fun f => Ty.option (.param f)).flatMap Ty.arities =
      [] := by
    simp [Ty.option]
  simp [tryMapEach, Method.arities, arities_zip htypes, arities_eachBounds, Ty.result,
    Ty.aritiesEach_eq_flatMap, Expr.ok, Expr.known, Expr.self, Expr.aritiesEach_eq_flatMap,
    arities_demand, arities_fault]

theorem arities_pushFront : t.pushFront.arities = [t.arity + 1, t.arity + 1] := by
  simp [pushFront, Method.arities, Ty.aritiesEach_eq_flatMap, yield, Expr.aritiesEach_eq_flatMap]

theorem arities_pushBack : t.pushBack.arities = [t.arity + 1, t.arity + 1] := by
  simp [pushBack, Method.arities, Ty.aritiesEach_eq_flatMap, yield, Expr.aritiesEach_eq_flatMap]

theorem arities_join (m : Nat) : (t.join m).arities = [m, t.arity + m] := by
  simp [join, Method.arities, Ty.ofSelf, Ty.aritiesEach_eq_flatMap, yield,
    Expr.aritiesEach_eq_flatMap]

theorem arities_joinOptional (m : Nat) :
    (t.joinOptional m).arities = [m, t.arity + m, t.arity + m] := by
  simp [joinOptional, Method.arities, Ty.option, Ty.ofSelf, Ty.aritiesEach_eq_flatMap, yield,
    Expr.some, Expr.none, Expr.known, Expr.aritiesEach_eq_flatMap, List.flatMap_map]

theorem arities_wrapNative : t.wrapNative.arities = [t.arity] := by
  simp [wrapNative, Method.arities, Ty.self, Ty.aritiesEach_eq_flatMap, yield]

theorem arities_unwrapNative : t.unwrapNative.arities = [t.arity] := by
  simp [unwrapNative, Method.arities, Ty.self, yield]

theorem arities_drawMethod : t.drawMethod.arities = [] := by
  simp [drawMethod, Method.arities, Ty.self, Ty.aritiesEach_eq_flatMap, yield, Expr.ofSelf]

theorem arities_shrinkMethod : shrinkMethod.arities = [] := by
  simp [shrinkMethod, Method.arities, Ty.self, Stmt.value, Expr.known, Expr.ofSelf, Expr.self]

theorem arities_chain {es : List Expr} (hes : ∀ e ∈ es, e.arities = []) :
    (chain es).arities = [] := by
  have hfrom : ∀ start : Expr, start.arities = [] →
      (es.foldl (fun e comparison => .method e "then_with" [.deferred comparison]) start).arities =
        [] := by
    induction es with
    | nil => exact fun start hstart => hstart
    | cons e rest ih =>
      intro start hstart
      refine ih (fun other hother => hes other (List.mem_cons_of_mem e hother)) _ ?_
      simp [hstart, hes e List.mem_cons_self]
  exact hfrom _ (by simp [Expr.known])

theorem arities_comparatorMethod : t.comparatorMethod.arities = [] := by
  have hparams : ((series "C" t.arity).map Ty.param).flatMap Ty.arities = [] := by
    simp
  have hbounds : (t.types.map comparison).flatMap Ty.arities = [] := by
    simp [types, params, comparison, Ty.ordering, Ty.known]
  have hbody : (chain (List.zipWith (fun c field => .call (.var c) (slotPair field))
      (series "c" t.arity) t.fields)).arities = [] := by
    apply arities_chain
    simp [series, fields, List.zipWith_map, slotPair]
  simp [comparatorMethod, Method.arities, arities_zip hparams, arities_zip hbounds, comparison,
    Ty.self, Ty.ordering, Ty.known, yield, hbody]

theorem arities_naturalMethod : t.naturalMethod.arities = [] := by
  have hbody : (chain (t.fields.map fun field =>
      .call (.known ["core", "cmp", "Ord", "cmp"]) (slotPair field))).arities = [] := by
    apply arities_chain
    simp [slotPair, Expr.known]
  simp [naturalMethod, Method.arities, Ty.self, Ty.ordering, Ty.known, yield, hbody]

theorem arities_write (text : String) : (write text).arities = [] := by
  simp [write]

theorem arities_displaySlots : ∀ stmt ∈ t.displaySlots, stmt.value.arities = [] := by
  intro stmt hstmt
  simp only [displaySlots, List.mem_flatMap, List.mem_append] at hstmt
  obtain ⟨⟨field, k⟩, -, hseparator | hslot⟩ := hstmt
  · by_cases hk : k = 0
    · simp [hk] at hseparator
    · simp only [if_neg hk, List.mem_singleton] at hseparator
      rw [hseparator]
      simp [Stmt.value, arities_write]
  · rw [List.mem_singleton.mp hslot]
    simp [Stmt.value, Expr.known, Expr.slot, Expr.self]

theorem arities_debugSlots (names : List String) (start : Expr) (hstart : start.arities = []) :
    (names.foldl (fun e field => .method e "field" [.ref (.slot field)]) start).arities = [] := by
  induction names generalizing start with
  | nil => exact hstart
  | cons name rest ih =>
    refine ih _ ?_
    simp [Expr.slot, Expr.self, hstart]

/-- A method that renders a tuple mentions those that its body does. -/
theorem arities_formatMethod (body : Block) :
    (formatMethod body).arities =
      body.stmts.flatMap (fun stmt => stmt.value.arities) ++ body.result.arities := by
  simp [formatMethod, Method.arities]

theorem arities_displayMethod : t.displayMethod.arities = [] := by
  have hslots : t.displaySlots.flatMap (fun stmt => stmt.value.arities) = [] :=
    List.flatMap_eq_nil_iff.mpr t.arities_displaySlots
  have hopen : (Stmt.run (.unwrapped (write "("))).value.arities = [] := arities_write "("
  rw [displayMethod, arities_formatMethod, List.flatMap_cons, hopen, hslots]
  exact arities_write ")"

theorem arities_debugMethod : t.debugMethod.arities = [] := by
  rw [debugMethod, arities_formatMethod]
  simp only [yield, List.flatMap_nil, List.nil_append]
  split
  · exact arities_write "()"
  · simp [arities_debugSlots]

end Methods

end Template

end Polyad
