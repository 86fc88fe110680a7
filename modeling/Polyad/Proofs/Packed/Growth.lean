import Mathlib.Algebra.GroupWithZero.Nat
import Mathlib.Data.Option.Basic
import Polyad.Packed
/-!
Growth of tuples up to the largest arity. All growth is joining, and what comes
of it depends on the slots that are put together, in their order, and on
nothing else.
-/

namespace Polyad

universe u

namespace Packed

variable {α : Type u}

@[simp] theorem toList_unit : (unit : Packed α).toList = [] := rfl

@[simp] theorem toList_map {β : Type u} (f : α → β) (t : Packed α) :
    (t.map f).toList = t.toList.map f :=
  t.slots.toList_map f

/-- What an operation gives is known by its slots, and so is that it gives
    nothing. -/
theorem eq_of_map_toList {a b : Option (Packed α)} (hlist : a.map toList = b.map toList) :
    a = b :=
  Option.map_injective (fun _ _ => toList_injective) hlist

theorem map_toList_ofList? (values : List α) :
    (ofList? values).map toList = if values.length ≤ maxArity then some values else none := by
  unfold ofList?
  split <;> simp [toList]

theorem ofList?_toList (t : Packed α) : ofList? t.toList = some t :=
  ofList?_eq_some.mpr rfl

theorem ofList?_eq_none {values : List α} : ofList? values = none ↔ maxArity < values.length := by
  unfold ofList?
  split
  · simpa
  · simpa using ‹¬ values.length ≤ maxArity›

theorem join?_eq_ofList? (t other : Packed α) :
    t.join? other = ofList? (t.toList ++ other.toList) := by
  apply eq_of_map_toList
  rw [map_toList_join?, map_toList_ofList?, List.length_append, length_toList, length_toList,
    Nat.add_comm]

theorem pushFront?_eq_join? (t : Packed α) (value : α) :
    t.pushFront? value = (single value).join? t := by
  apply eq_of_map_toList
  rw [map_toList_pushFront?, map_toList_join?]
  rfl

theorem pushBack?_eq_join? (t : Packed α) (value : α) :
    t.pushBack? value = t.join? (single value) := by
  apply eq_of_map_toList
  rw [map_toList_pushBack?, map_toList_join?, Nat.add_comm]
  rfl

theorem pad?_eq_ofList? (wrap : Option α → α) (t : Packed α) {m : Nat}
    (other : Option (Tuple α m)) :
    t.pad? wrap other = ofList? (t.toList ++ (Tuple.padding wrap other).toList) := by
  apply eq_of_map_toList
  rw [map_toList_pad?, map_toList_ofList?, List.length_append, length_toList,
    Tuple.length_toList, Nat.add_comm]

/-- Lists that are joined piece by piece fit exactly if the whole fits. -/
theorem ofList?_append (front back : List α) :
    ((ofList? front).bind fun t => (ofList? back).bind t.join?) = ofList? (front ++ back) := by
  cases hfront : ofList? front with
  | none =>
    have hlong := ofList?_eq_none.mp hfront
    exact (ofList?_eq_none.mpr (by rw [List.length_append]; omega)).symm
  | some t =>
    cases hback : ofList? back with
    | none =>
      have hlong := ofList?_eq_none.mp hback
      exact (ofList?_eq_none.mpr (by rw [List.length_append]; omega)).symm
    | some other =>
      rw [ofList?_eq_some.mp hfront, ofList?_eq_some.mp hback]
      exact t.join?_eq_ofList? other

theorem unit_join? (t : Packed α) : unit.join? t = some t := by
  rw [join?_eq_ofList?]
  exact ofList?_toList t

theorem join?_unit (t : Packed α) : t.join? unit = some t := by
  rw [join?_eq_ofList?, toList_unit, List.append_nil, ofList?_toList]

section

variable (wrap : Option α → α) (t : Packed α)

theorem pad?_some (other : Packed α) :
    t.pad? wrap (some other.slots) = t.join? (other.map fun value => wrap (some value)) := by
  rw [pad?_eq_ofList?, join?_eq_ofList?, Tuple.toList_padding_some, toList_map]
  rfl

theorem pad?_none_zero : t.pad? wrap (none : Option (Tuple α 0)) = t.join? unit := by
  rw [pad?_eq_ofList?, join?_eq_ofList?]
  rfl

/-- Where there are slots to fill, they are those of the tuple with every slot
    empty. -/
theorem pad?_none_succ (m : Nat) :
    t.pad? wrap (none : Option (Tuple α (m + 1))) =
      (empty? (m + 1)).bind fun empty => t.join? (empty.map wrap) := by
  rw [pad?_eq_ofList?, Tuple.toList_padding_none]
  by_cases hroom : m + 1 ≤ maxArity
  · have hempty : empty? (α := α) (m + 1) = some ⟨m + 1, .empty (m + 1), hroom⟩ :=
      dif_pos ⟨Nat.succ_pos m, hroom⟩
    have hslots : (Packed.mk (m + 1) (Tuple.empty (α := α) (m + 1)) hroom).toList =
        List.replicate (m + 1) none := Tuple.toList_replicate (m + 1) none
    rw [hempty, Option.bind_some, join?_eq_ofList?, toList_map, hslots, List.map_replicate]
  · have hempty : empty? (α := α) (m + 1) = none := dif_neg fun hfits => hroom hfits.2
    -- Too many empty slots have no room behind others either.
    rw [hempty, Option.bind_none]
    exact ofList?_eq_none.mpr (by rw [List.length_append, List.length_replicate]; omega)

/-- Padding is joining with the padding of the tuple without slots. -/
theorem pad?_eq_bind_join? {m : Nat} (other : Option (Tuple α m)) :
    t.pad? wrap other = (unit.pad? wrap other).bind t.join? := by
  rw [pad?_eq_ofList?, pad?_eq_ofList?, toList_unit, List.nil_append, ← ofList?_append,
    ofList?_toList, Option.bind_some]

end

end Packed

/-- A way of putting a tuple together. -/
inductive Assembly (α : Type u) where
  | whole (t : Packed α)
  | front (value : α) (rest : Assembly α)
  | back (rest : Assembly α) (value : α)
  | join (left right : Assembly α)

namespace Assembly

variable {α : Type u}

/-- The tuple that is put together, if every part of it exists. -/
def tuple? : Assembly α → Option (Packed α)
  | whole t => some t
  | front value rest => rest.tuple?.bind fun t => t.pushFront? value
  | back rest value => rest.tuple?.bind fun t => t.pushBack? value
  | join left right => left.tuple?.bind fun t => right.tuple?.bind t.join?

/-- The tuples that are put together, from left to right. A value is a tuple of
    one slot. -/
def factors : Assembly α → List (Packed α)
  | whole t => [t]
  | front value rest => .single value :: rest.factors
  | back rest value => rest.factors ++ [.single value]
  | join left right => left.factors ++ right.factors

/-- The slots that are put together, from left to right. -/
def slots (a : Assembly α) : List α :=
  a.factors.flatMap Packed.toList

theorem tuple?_eq_ofList? (a : Assembly α) : a.tuple? = Packed.ofList? a.slots := by
  induction a with
  | whole t => simp [tuple?, slots, factors, Packed.ofList?_toList]
  | front value rest ih =>
    have hvalue := Packed.ofList?_toList (Packed.single value)
    rw [tuple?, ih, slots, slots, factors, List.flatMap_cons, ← Packed.ofList?_append, hvalue]
    exact Option.bind_congr fun t _ => t.pushFront?_eq_join? value
  | back rest value ih =>
    have hvalue := Packed.ofList?_toList (Packed.single value)
    rw [tuple?, ih, slots, slots, factors, List.flatMap_append, List.flatMap_singleton,
      ← Packed.ofList?_append, hvalue]
    exact Option.bind_congr fun t _ => t.pushBack?_eq_join? value
  | join left right ihl ihr =>
    rw [tuple?, ihl, ihr, Packed.ofList?_append, slots, slots, slots, factors, List.flatMap_append]

theorem map_arity_tuple? (a : Assembly α) :
    a.tuple?.map Packed.arity =
      if (a.factors.map Packed.arity).sum ≤ maxArity then some (a.factors.map Packed.arity).sum
      else none := by
  have hlength : a.slots.length = (a.factors.map Packed.arity).sum := by
    simp only [slots, List.length_flatMap, Packed.length_toList]
  have harity : a.tuple?.map Packed.arity = (a.tuple?.map Packed.toList).map List.length := by
    simp only [Option.map_map, Function.comp_def, Packed.length_toList]
  rw [harity, tuple?_eq_ofList?, Packed.map_toList_ofList?, hlength]
  split
  · rw [Option.map_some, hlength]
  · rfl

end Assembly

namespace Packed

/-- Joining is associative for any number of tuples, with the tuple without slots on
    either side as a unit, and the arities add up. Values that are added in front or
    at the back are joined as well, so the same slots make the same tuple however they
    are put together. A tuple that may be missing is joined with its slots present, or
    with a tuple whose every slot is empty in its place. -/
theorem growth_is_joining {α : Type u} :
    (∀ a : Assembly α,
      a.tuple? = ofList? a.slots ∧
      a.tuple?.map arity =
        if (a.factors.map arity).sum ≤ maxArity then some (a.factors.map arity).sum
        else none) ∧
    (∀ a b : Assembly α, a.slots = b.slots → a.tuple? = b.tuple?) ∧
    (∀ t : Packed α,
      unit.join? t = some t ∧ t.join? unit = some t ∧
      ∀ value,
        t.pushFront? value = (single value).join? t ∧
        t.pushBack? value = t.join? (single value)) ∧
    ∀ (wrap : Option α → α) (t : Packed α),
      (∀ other : Packed α,
        t.pad? wrap (some other.slots) = t.join? (other.map fun value => wrap (some value))) ∧
      t.pad? wrap (none : Option (Tuple α 0)) = t.join? unit ∧
      (∀ m,
        t.pad? wrap (none : Option (Tuple α (m + 1))) =
          (empty? (m + 1)).bind fun empty => t.join? (empty.map wrap)) ∧
      ∀ {m k : Nat} (other : Option (Tuple α m)) (last : Option (Tuple α k)),
        ((t.pad? wrap other).bind fun padded => padded.pad? wrap last) =
          (t.pad? wrap other).bind fun padded => (unit.pad? wrap last).bind padded.join? := by
  refine ⟨fun a => ⟨a.tuple?_eq_ofList?, a.map_arity_tuple?⟩, ?_, ?_, ?_⟩
  · intro a b hslots
    rw [a.tuple?_eq_ofList?, b.tuple?_eq_ofList?, hslots]
  · intro t
    exact ⟨t.unit_join?, t.join?_unit, fun value =>
      ⟨t.pushFront?_eq_join? value, t.pushBack?_eq_join? value⟩⟩
  · intro wrap t
    refine ⟨t.pad?_some wrap, t.pad?_none_zero wrap, t.pad?_none_succ wrap, ?_⟩
    intro m k other last
    exact Option.bind_congr fun padded _ => padded.pad?_eq_bind_join? wrap last

/-- Three values come together from the middle outwards, and by two joins of which
    one is with the tuple without slots. -/
theorem growth_is_joining_three_values :
    let outwards : Assembly Nat := .back (.front 1 (.whole (single 2))) 3
    let joined : Assembly Nat :=
      .join (.whole (single 1)) (.join (.whole unit) (.back (.whole (single 2)) 3))
    outwards.slots = joined.slots ∧ outwards.tuple? = joined.tuple? := by
  intro outwards joined
  have hslots : outwards.slots = joined.slots := by decide
  exact ⟨hslots, growth_is_joining.2.1 outwards joined hslots⟩

end Packed

end Polyad
