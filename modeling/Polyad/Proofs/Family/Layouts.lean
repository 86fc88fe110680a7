import Polyad.Proofs.Family.Positions
/-!
The layout of every tuple that the methods of one arity build, and that the
literals in its items fill these layouts and no others.
-/

namespace Polyad

open Code

namespace Template

variable (t : Template)

/-- The slot at a position of the tuple that a method was called on. -/
def own (j : Nat) : Expr × Ty :=
  (ownSlot j, ownType j)

/-- The slot at a position of the tuple on the right. -/
def other (j : Nat) : Expr × Ty :=
  (otherSlot j, otherType j)

/-- The slots of the tuple that a method was called on, with another one in
    place of the slot at a position. -/
def changed (k : Nat) (slot : Expr × Ty) (j : Nat) : Expr × Ty :=
  if j = k then slot else own j

/-- What stands at a position where `n` slots are followed by others. -/
def joined (n : Nat) (left right : Nat → Expr × Ty) (j : Nat) : Expr × Ty :=
  if j < n then left j else right (j - n)

def borrowLayout : Layout where
  method := "as_ref"
  size := t.arity
  slot j := (.ref (ownSlot j), .ref (ownType j))

def emptyLayout : Layout where
  method := "empty"
  size := t.arity
  slot j := (.none, .option (ownType j))

def setLayout (k : Nat) : Layout where
  method := numberedName "update" (k + 1)
  size := t.arity
  slot := changed k (.var "value", .param "U")

def eraseLayout (k : Nat) : Layout where
  method := numberedName "remove" (k + 1)
  size := t.arity - 1
  slot j := own (if j < k then j else j + 1)

def mapLayout (k : Nat) : Layout where
  method := numberedName "map" (k + 1)
  size := t.arity
  slot := changed k (.call (.var "f") [ownSlot k], .param "U")

def eachLayout : Layout where
  method := "map_each"
  size := t.arity
  slot j := (.call (.var (numberedName "f" (j + 1))) [ownSlot j], otherType j)

def frontLayout : Layout where
  method := "prepend"
  size := 1 + t.arity
  slot := joined 1 (fun _ => (.var "value", .param "V")) own

def backLayout : Layout where
  method := "append"
  size := t.arity + 1
  slot := joined t.arity own fun _ => (.var "value", .param "V")

def joinLayout (m : Nat) : Layout where
  method := "concat"
  size := t.arity + m
  slot := joined t.arity own other

def presentLayout (m : Nat) : Layout where
  method := "concat_opt"
  size := t.arity + m
  slot := joined t.arity own fun j => (.some (otherSlot j), .option (otherType j))

def absentLayout (m : Nat) : Layout where
  method := "concat_opt"
  size := t.arity + m
  slot := joined t.arity own fun j => (.none, .option (otherType j))

/-- The layouts of all tuples that the items of an arity build, in the order in
    which they stand. -/
def layouts : List Layout :=
  [t.borrowLayout] ++
  (if t.arity = 0 then [] else [t.emptyLayout]) ++
  (List.range t.arity).flatMap (fun k => [t.setLayout k, t.eraseLayout k, t.mapLayout k]) ++
  [t.eachLayout] ++
  (if t.ceiling ≤ t.arity then [] else [t.frontLayout, t.backLayout]) ++
  (List.range (t.ceiling - t.arity + 1)).flatMap fun m =>
    [t.joinLayout m, t.presentLayout m, t.absentLayout m]

/-- The values of a layout hold no literals if no value does. -/
theorem literals_values {b : Layout} (s : Scope) (hnone : ∀ j, (b.slot j).1.literals s = []) :
    Expr.literalsEach s b.values = [] := by
  apply Expr.literalsEach_eq_nil
  intro e he
  obtain ⟨j, -, rfl⟩ := List.mem_map.mp he
  exact hnone j

section Filling

variable {item : Item} {m : Method} {b : Layout}

/-- A method whose whole body is a literal fills a layout if the values, the
    result and the type of every value are those of the layout. -/
theorem fills_yield (hbody : m.body = yield (.tuple b.values)) (hname : m.name = b.method)
    (hresult : item.resolve m.result = .tuple b.types)
    (hnone : ∀ j, (b.slot j).1.literals (m.scope item.target) = [])
    (htyped : ∀ j < b.size, HasType (m.scope item.target) (b.slot j).1 (b.slot j).2) :
    List.Forall₂ Literal.Fills (item.literalsOf m) [b] := by
  have hliterals : item.literalsOf m =
      [⟨m.name, m.scope item.target, b.values, item.resolve m.result⟩] := by
    simp [Item.literalsOf, hbody, yield, Stmt.literals, Expr.literals, literals_values _ hnone]
  rw [hliterals]
  exact .cons ⟨hname, rfl, hresult, htyped⟩ .nil

end Filling

theorem fills_borrowAll :
    List.Forall₂ Literal.Fills (t.accessItem.literalsOf t.borrowAll) [t.borrowLayout] := by
  apply fills_yield
  · simp [borrowAll, slots_eq, Layout.values, borrowLayout, Function.comp_def]
  · rfl
  · simp [borrowAll, types_eq, Layout.types, borrowLayout, Function.comp_def]
  · intro j
    simp [borrowLayout, Expr.literals]
  · intro j hj
    exact .ref (hasType_ownSlot_of_ref (t := t) rfl hj)

theorem fills_emptyTuple :
    List.Forall₂ Literal.Fills
      ((Item.methods (Param.free t.params) (.tuple (t.types.map .option)) [t.emptyTuple]).literalsOf
        t.emptyTuple) [t.emptyLayout] := by
  apply fills_yield
  · simp [emptyTuple, Layout.values, emptyLayout]
  · rfl
  · simp [emptyTuple, Ty.self, Item.target, types_eq, Layout.types, emptyLayout, Function.comp_def]
  · intro j
    simp [emptyLayout, Expr.none, Expr.known, Expr.literals]
  · intro j hj
    exact .none

/-- The slot that a method changes has the type that it declares for it, and
    every other slot keeps the one that it had. -/
theorem hasType_changed {s : Scope} {k j : Nat} {slot : Expr × Ty}
    (hself : s.vars.lookup "self" = some t.type) (hslot : HasType s slot.1 slot.2)
    (hj : j < t.arity) : HasType s (changed k slot j).1 (changed k slot j).2 := by
  by_cases hjk : j = k
  · rw [changed, if_pos hjk]
    exact hslot
  · rw [changed, if_neg hjk]
    exact hasType_ownSlot hself hj

theorem map_changed {β : Type} (part : Expr × Ty → β) (k : Nat) (slot : Expr × Ty) (n : Nat) :
    (List.range n).map (fun j => part (changed k slot j)) =
      ((List.range n).map fun j => part (own j)).set k (part slot) := by
  rw [set_map_range]
  simp only [changed, apply_ite part]

theorem fills_setSlot (k : Nat) :
    List.Forall₂ Literal.Fills (t.slotItem.literalsOf (t.setSlot k)) [t.setLayout k] := by
  apply fills_yield
  · simp [setSlot, slots_eq, Layout.values, setLayout, map_changed Prod.fst, own]
  · rfl
  · simp [setSlot, typesWith, types_eq, Layout.types, setLayout, map_changed Prod.snd, own]
  · intro j
    simp only [setLayout, changed, own]
    split <;> simp [Expr.literals]
  · intro j hj
    exact t.hasType_changed rfl (.var rfl) hj

theorem fills_eraseSlot {k : Nat} (hk : k < t.arity) :
    List.Forall₂ Literal.Fills (t.slotItem.literalsOf (t.eraseSlot k)) [t.eraseLayout k] := by
  apply fills_yield
  · simp [eraseSlot, slots_eq, Layout.values, eraseLayout, own, eraseIdx_map_range _ _ hk]
  · rfl
  · simp [eraseSlot, types_eq, Layout.types, eraseLayout, own, eraseIdx_map_range _ _ hk]
  · intro j
    simp [eraseLayout, own]
  · intro j hj
    have hlt : (if j < k then j else j + 1) < t.arity := by
      change j < t.arity - 1 at hj
      split <;> omega
    exact hasType_ownSlot rfl hlt

theorem fills_mapSlot {k : Nat} (hk : k < t.arity) :
    List.Forall₂ Literal.Fills (t.slotItem.literalsOf (t.mapSlot k)) [t.mapLayout k] := by
  apply fills_yield
  · simp [mapSlot, slots_eq, Layout.values, mapLayout, map_changed Prod.fst, own]
    rfl
  · rfl
  · simp [mapSlot, typesWith, types_eq, Layout.types, mapLayout, map_changed Prod.snd, own]
  · intro j
    simp only [mapLayout, changed, own]
    split <;> simp [Expr.literals, Expr.literalsEach]
  · intro j hj
    refine t.hasType_changed rfl ?_ hj
    exact .call rfl List.mem_cons_self (.cons (hasType_ownSlot rfl hk) .nil)

/-- The functions for the slots are bound to the numbered names. -/
theorem vars_mapEach :
    (t.mapEach.scope t.type).vars =
      ("self", t.type) :: (List.range t.arity).map fun j =>
        (numberedName "f" (j + 1), .param (numberedName "F" (j + 1))) := by
  simp [Method.scope, mapEach, Receiver.type, series, List.zip_map', List.flatMap_map,
    Pattern.vars, ← List.map_eq_flatMap]

theorem bound_mapEach {j : Nat} (hj : j < t.arity) :
    (numberedName "F" (j + 1), function [ownType j] (otherType j)) ∈
      (t.mapEach.scope t.type).bounds := by
  have hbounds : (t.mapEach.scope t.type).bounds = (List.range t.arity).map fun j =>
      (numberedName "F" (j + 1), function [ownType j] (otherType j)) := by
    simp [Method.scope, mapEach, eachBounds, types_eq, eachTypes_eq, series,
      List.zipWith_map, List.zip_map']
  rw [hbounds]
  exact List.mem_map.mpr ⟨j, List.mem_range.mpr hj, rfl⟩

theorem fills_mapEach :
    List.Forall₂ Literal.Fills (t.wholeItem.literalsOf t.mapEach) [t.eachLayout] := by
  apply fills_yield
  · simp [mapEach, slots_eq, Layout.values, eachLayout, series, List.zipWith_map]
  · rfl
  · simp [mapEach, eachTypes_eq, Layout.types, eachLayout]
  · intro j
    simp [eachLayout, Expr.literals, Expr.literalsEach]
  · intro j hj
    change HasType (t.mapEach.scope t.type) _ _
    have hself : (t.mapEach.scope t.type).vars.lookup "self" = some t.type := by
      rw [vars_mapEach]
      rfl
    have hname : (numberedName "f" (j + 1) == "self") = false := by
      simp [(show Digitless "self" by decide).ne_numberedName, Ne.symm]
    have hfunction : (t.mapEach.scope t.type).vars.lookup (numberedName "f" (j + 1)) =
        some (.param (numberedName "F" (j + 1))) := by
      rw [vars_mapEach, List.lookup_cons, hname]
      exact lookup_map_range _ _ hj
    exact .call hfunction (t.bound_mapEach hj) (.cons (hasType_ownSlot hself hj) .nil)

section Joining

variable {n : Nat} {left right : Nat → Expr × Ty}

theorem map_joined {β : Type} (part : Expr × Ty → β) (m : Nat) :
    (List.range (n + m)).map (fun j => part (joined n left right j)) =
      ((List.range n).map fun j => part (left j)) ++
        (List.range m).map fun j => part (right j) := by
  rw [append_map_range]
  simp only [joined, apply_ite part]

theorem literals_joined {s : Scope} (hleft : ∀ j, (left j).1.literals s = [])
    (hright : ∀ j, (right j).1.literals s = []) (j : Nat) :
    (joined n left right j).1.literals s = [] := by
  rw [joined]
  split
  · exact hleft j
  · exact hright (j - n)

theorem hasType_joined {s : Scope} {m j : Nat} (hj : j < n + m)
    (hleft : ∀ i < n, HasType s (left i).1 (left i).2)
    (hright : ∀ i < m, HasType s (right i).1 (right i).2) :
    HasType s (joined n left right j).1 (joined n left right j).2 := by
  by_cases hjn : j < n
  · rw [joined, if_pos hjn]
    exact hleft j hjn
  · rw [joined, if_neg hjn]
    exact hright (j - n) (by omega)

end Joining

/-- The item of the methods that grow a tuple by one slot. -/
def pushItem : Item :=
  .methods (Param.free t.params) t.type [t.pushFront, t.pushBack]

theorem fills_pushFront :
    List.Forall₂ Literal.Fills (t.pushItem.literalsOf t.pushFront) [t.frontLayout] := by
  apply fills_yield
  · simp [pushFront, slots_eq, Layout.values, frontLayout, map_joined Prod.fst, own]
  · rfl
  · simp [pushFront, types_eq, Layout.types, frontLayout, map_joined Prod.snd, own]
  · exact literals_joined (by simp [Expr.literals]) (by simp [own])
  · intro j hj
    refine hasType_joined hj ?_ ?_
    · intro i hi
      exact .var rfl
    · intro i hi
      exact hasType_ownSlot rfl hi

theorem fills_pushBack :
    List.Forall₂ Literal.Fills (t.pushItem.literalsOf t.pushBack) [t.backLayout] := by
  apply fills_yield
  · simp [pushBack, slots_eq, Layout.values, backLayout, map_joined Prod.fst, own]
  · rfl
  · simp [pushBack, types_eq, Layout.types, backLayout, map_joined Prod.snd, own]
  · exact literals_joined (by simp [own]) (by simp [Expr.literals])
  · intro j hj
    refine hasType_joined hj ?_ ?_
    · intro i hi
      exact hasType_ownSlot rfl hi
    · intro i hi
      exact .var rfl

theorem fills_join (m : Nat) :
    List.Forall₂ Literal.Fills ((t.joinItem m).literalsOf (t.join m)) [t.joinLayout m] := by
  apply fills_yield
  · simp [join, slots_eq, rightSlots_eq, Layout.values, joinLayout, map_joined Prod.fst, own, other]
  · rfl
  · simp [join, Ty.ofSelf, Item.memberType?, joinItem, types_eq, rightTypes_eq, Layout.types,
      joinLayout, map_joined Prod.snd, own, other]
  · exact literals_joined (by simp [own]) (by simp [other])
  · intro j hj
    refine hasType_joined hj ?_ ?_
    · intro i hi
      exact hasType_ownSlot rfl hi
    · intro i hi
      -- A tuple without slots is not even bound to a name.
      have hm : m ≠ 0 := by omega
      have hvars : ((t.join m).scope t.type).vars =
          [("self", t.type), ("rhs", .tuple (rightTypes m))] := by
        simp [Method.scope, join, hm, Pattern.vars, Receiver.type]
      refine hasType_otherSlot (m := m) ?_ hi
      change ((t.join m).scope t.type).vars.lookup "rhs" = _
      rw [hvars]
      rfl

/-- What the names stand for where an optional tuple on the right is there. -/
def presentScope (m : Nat) : Scope :=
  ((t.joinOptional m).scope t.type).bind (rightName m) (.tuple (rightTypes m))

theorem bindPresent_joinOptional (m : Nat) :
    ((t.joinOptional m).scope t.type).bindPresent (.var "rhs") (rightName m) =
      t.presentScope m := by
  rfl

theorem lookup_self_presentScope (m : Nat) :
    (t.presentScope m).vars.lookup "self" = some t.type := by
  by_cases hm : m = 0
  · rw [presentScope, rightName, if_pos hm]
    rfl
  · rw [presentScope, rightName, if_neg hm]
    rfl

theorem lookup_rhs_presentScope {m : Nat} (hm : 0 < m) :
    (t.presentScope m).vars.lookup "rhs" = some (.tuple (rightTypes m)) := by
  rw [presentScope, rightName, if_neg (by omega)]
  rfl

theorem types_absentLayout (m : Nat) : (t.absentLayout m).types = (t.presentLayout m).types := by
  simp only [Layout.types, absentLayout, presentLayout, map_joined Prod.snd]

/-- Both branches stand under one declared type. Only in the first is there a
    tuple on the right to read from. -/
theorem literalsOf_joinOptional (m : Nat) :
    (t.joinItem m).literalsOf (t.joinOptional m) =
      [⟨"concat_opt", t.presentScope m, (t.presentLayout m).values,
          .tuple (t.presentLayout m).types⟩,
        ⟨"concat_opt", (t.joinOptional m).scope t.type, (t.absentLayout m).values,
          .tuple (t.absentLayout m).types⟩] := by
  have hpresent : t.slots ++ (rightSlots m).map .some = (t.presentLayout m).values := by
    simp [slots_eq, rightSlots_eq, Layout.values, presentLayout, map_joined Prod.fst, own]
  have habsent : t.slots ++ List.replicate m .none = (t.absentLayout m).values := by
    simp [slots_eq, Layout.values, absentLayout, map_joined Prod.fst, own]
  have hresult : (t.joinItem m).resolve (.ofSelf "Padded") = .tuple (t.presentLayout m).types := by
    simp [Ty.ofSelf, Item.memberType?, joinItem, types_eq, rightTypes_eq, Layout.types,
      presentLayout, map_joined Prod.snd, own]
  have hpresentFree : ∀ s, Expr.literalsEach s (t.presentLayout m).values = [] := fun s =>
    literals_values s (literals_joined (by simp [own])
      (by simp [Expr.some, Expr.known, Expr.literals, Expr.literalsEach]))
  have habsentFree : ∀ s, Expr.literalsEach s (t.absentLayout m).values = [] := fun s =>
    literals_values s (literals_joined (by simp [own])
      (by simp [Expr.none, Expr.known, Expr.literals]))
  change (Stmt.literals (.byPresence (.var "rhs") (rightName m)
    (.tuple (t.slots ++ (rightSlots m).map .some)) (.tuple (t.slots ++ List.replicate m .none)))
    ((t.joinOptional m).scope t.type) []).map (fun literal => Literal.mk "concat_opt" literal.1
      literal.2 ((t.joinItem m).resolve (.ofSelf "Padded"))) = _
  rw [hpresent, habsent, hresult, types_absentLayout]
  simp [Stmt.literals, Expr.literals, bindPresent_joinOptional, hpresentFree, habsentFree]

theorem fills_joinOptional (m : Nat) :
    List.Forall₂ Literal.Fills ((t.joinItem m).literalsOf (t.joinOptional m))
      [t.presentLayout m, t.absentLayout m] := by
  rw [literalsOf_joinOptional]
  refine .cons ⟨rfl, rfl, rfl, ?_⟩ (.cons ⟨rfl, rfl, rfl, ?_⟩ .nil)
  · intro j hj
    refine hasType_joined hj ?_ ?_
    · intro i hi
      exact hasType_ownSlot (t.lookup_self_presentScope m) hi
    · intro i hi
      exact .some (hasType_otherSlot (t.lookup_rhs_presentScope (by omega)) hi)
  · intro j hj
    refine hasType_joined hj ?_ ?_
    · intro i hi
      exact hasType_ownSlot rfl hi
    · intro i hi
      exact .none

end Template

end Polyad
