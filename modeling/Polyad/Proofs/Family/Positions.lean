import Polyad.Proofs.Family.Names
import Polyad.Proofs.Family.Typing
/-!
Which value stands in which slot of every tuple that generated code builds, at
every arity, and that the declared type has the type of that value in the same
place.
-/

namespace Polyad

namespace Code

/-- What a method is to build: how many slots, and the value and the type at
    every position, counted from zero. -/
structure Layout where
  method : String
  size : Nat
  slot : Nat → Expr × Ty

namespace Layout

def values (b : Layout) : List Expr :=
  (List.range b.size).map fun j => (b.slot j).1

def types (b : Layout) : List Ty :=
  (List.range b.size).map fun j => (b.slot j).2

end Layout

/-- A literal stands in the method of a layout, has its values in its order, is
    declared with its types in the same order, and every value has its type. -/
structure Literal.Fills (l : Literal) (b : Layout) : Prop where
  method : l.method = b.method
  values : l.values = b.values
  declared : l.declared = .tuple b.types
  typed : ∀ j < b.size, HasType l.scope (b.slot j).1 (b.slot j).2

theorem Expr.tokensEach_eq_map (es : List Expr) : Expr.tokensEach es = es.map Expr.tokens := by
  induction es with
  | nil => rfl
  | cons e rest ih => rw [Expr.tokensEach, ih, List.map_cons]

theorem Ty.tokensEach_eq_map (types : List Ty) : Ty.tokensEach types = types.map Ty.tokens := by
  induction types with
  | nil => rfl
  | cons type rest ih => rw [Ty.tokensEach, ih, List.map_cons]

/-- A literal and its declared type are spelled with one number of slots, with
    a label of its own for every slot and the labels in order. -/
structure Literal.Spells (l : Literal) (b : Layout) : Prop where
  labels : ((List.range b.size).map fun j => numberedName "t" (j + 1)).Nodup
  values : (Expr.tuple l.values).tokens =
    .word ("Tuple" ++ toString b.size) :: braced (separated ((List.range b.size).map fun j =>
      [.word (numberedName "t" (j + 1)), .word ":"] ++ (b.slot j).1.tokens))
  declared : l.declared.tokens =
    .word ("Tuple" ++ toString b.size) ::
      angled ((List.range b.size).map fun j => (b.slot j).2.tokens)

theorem Literal.Fills.spells {l : Literal} {b : Layout} (hfills : l.Fills b) : l.Spells b where
  labels := nodup_series "t" b.size
  values := by
    rw [hfills.values, Expr.tokens, Expr.tokensEach_eq_map, literalShape, labelled]
    simp [Layout.values, series, tupleName, List.zipWith_map, Function.comp_def]
  declared := by
    rw [hfills.declared, Ty.tokens, Ty.tokensEach_eq_map, tupleShape]
    simp [Layout.types, tupleName, Function.comp_def]

end Code

open Code

section Positions

variable {α : Type} (n : Nat) (f : Nat → α)

theorem set_map_range (k : Nat) (value : α) :
    ((List.range n).map f).set k value =
      (List.range n).map fun j => if j = k then value else f j := by
  apply List.ext_getElem (by simp)
  intro j hleft hright
  by_cases hjk : j = k
  · simp [hjk]
  · simp [hjk, Ne.symm hjk]

theorem eraseIdx_map_range {k : Nat} (hk : k < n) :
    ((List.range n).map f).eraseIdx k =
      (List.range (n - 1)).map fun j => f (if j < k then j else j + 1) := by
  apply List.ext_getElem (by simp [List.length_eraseIdx, hk])
  intro j hleft hright
  by_cases hjk : j < k
  · simp [List.getElem_eraseIdx, hjk]
  · simp [List.getElem_eraseIdx, hjk]

theorem append_map_range (m : Nat) (g : Nat → α) :
    (List.range n).map f ++ (List.range m).map g =
      (List.range (n + m)).map fun j => if j < n then f j else g (j - n) := by
  apply List.ext_getElem (by simp)
  intro j hleft hright
  by_cases hjn : j < n
  · simp [hjn]
  · simp [List.getElem_append, hjn]

theorem lookup_map_range {stem : String} {j : Nat} (hj : j < n) :
    ((List.range n).map fun i => (numberedName stem (i + 1), f i)).lookup
      (numberedName stem (j + 1)) = some (f j) := by
  have hlist : ∀ l : List Nat, j ∈ l →
      (l.map fun i => (numberedName stem (i + 1), f i)).lookup (numberedName stem (j + 1)) =
        some (f j) := by
    intro l hmem
    induction l with
    | nil => cases hmem
    | cons i rest ih =>
      by_cases hij : j = i
      · simp [hij]
      · have hrest : j ∈ rest := by simpa [hij] using hmem
        have hname : (numberedName stem (j + 1) == numberedName stem (i + 1)) = false := by
          simp [hij]
        simp [List.lookup_cons, hname, ih hrest]
  exact hlist _ (List.mem_range.mpr hj)

end Positions

theorem forall₂_flatMap {α β γ : Type} {R : β → γ → Prop} {f : α → List β} {g : α → List γ}
    {l : List α} (hpoint : ∀ a ∈ l, List.Forall₂ R (f a) (g a)) :
    List.Forall₂ R (l.flatMap f) (l.flatMap g) := by
  induction l with
  | nil => exact .nil
  | cons a rest ih =>
    simp only [List.flatMap_cons]
    refine List.rel_append (hpoint a List.mem_cons_self) (ih ?_)
    intro b hb
    exact hpoint b (List.mem_cons_of_mem a hb)

namespace Template

/-- The slot at a position of the tuple that a method was called on. Positions
    count from zero and names from one. -/
def ownSlot (j : Nat) : Expr :=
  .slot (numberedName "t" (j + 1))

/-- The slot at a position of the tuple on the right. -/
def otherSlot (j : Nat) : Expr :=
  .field (.var "rhs") (numberedName "t" (j + 1))

/-- The type of the slot at a position of the tuple that a method was called on. -/
def ownType (j : Nat) : Ty :=
  .param (numberedName "T" (j + 1))

/-- The type of the slot at a position of another tuple, on the right or as a
    result. -/
def otherType (j : Nat) : Ty :=
  .param (numberedName "U" (j + 1))

variable (t : Template)

theorem slots_eq : t.slots = (List.range t.arity).map ownSlot := by
  simp [slots, fields, series, Function.comp_def, ownSlot]

theorem types_eq : t.types = (List.range t.arity).map ownType := by
  simp [types, params, series, Function.comp_def, ownType]

theorem type_eq : t.type = .tuple ((List.range t.arity).map ownType) := by
  rw [type, types_eq]

theorem rightSlots_eq (m : Nat) : rightSlots m = (List.range m).map otherSlot := by
  simp [rightSlots, series, Function.comp_def, otherSlot]

theorem rightTypes_eq (m : Nat) : rightTypes m = (List.range m).map otherType := by
  simp [rightTypes, series, Function.comp_def, otherType]

theorem eachTypes_eq : t.eachTypes = (List.range t.arity).map otherType := by
  simp [eachTypes, series, Function.comp_def, otherType]

section Slots

variable {t} {s : Scope} {j : Nat}

theorem hasType_ownSlot (hself : s.vars.lookup "self" = some t.type) (hj : j < t.arity) :
    HasType s (ownSlot j) (ownType j) := by
  rw [type_eq] at hself
  refine .field (.var hself) ?_
  simp [hj]

theorem hasType_ownSlot_of_ref (hself : s.vars.lookup "self" = some (.ref t.type))
    (hj : j < t.arity) : HasType s (ownSlot j) (ownType j) := by
  rw [type_eq] at hself
  refine .fieldOfRef (.var hself) ?_
  simp [hj]

theorem hasType_otherSlot {m : Nat}
    (hright : s.vars.lookup "rhs" = some (.tuple (rightTypes m))) (hj : j < m) :
    HasType s (otherSlot j) (otherType j) := by
  rw [rightTypes_eq] at hright
  refine .field (.var hright) ?_
  simp [hj]

end Slots

@[simp] theorem literals_ownSlot (s : Scope) (j : Nat) : (ownSlot j).literals s = [] := by
  simp [ownSlot, Expr.slot, Expr.self, Expr.literals]

@[simp] theorem literals_otherSlot (s : Scope) (j : Nat) : (otherSlot j).literals s = [] := by
  simp [otherSlot, Expr.literals]

end Template

end Polyad
