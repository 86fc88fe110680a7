import Polyad.Value.Digest
import Polyad.Proofs.Order.PartialTuples
/-!
What is fed to a hash function. Equal values feed the same, and a tuple feeds what
its leaves do, however they are nested. Nothing else is lost: writes can be told
apart wherever no tuple hides in an option, since no value writes the beginning of
what another one writes.
-/

namespace Polyad

namespace Value

/-- Whether a value is no tuple and, where it is optional, has none inside. -/
def tupleFree : Value → Bool
  | tuple _ => false
  | present inner => inner.tupleFree
  | _ => true

mutual

/-- What is left of a value when every tuple is replaced by its slots. An optional
    value stays whole. -/
def leaves : Value → List Value
  | tuple slots => slotLeaves slots
  | value => [value]

/-- The leaves of all slots. -/
def slotLeaves {n : Nat} : Tuple Value n → List Value
  | .nil => []
  | .cons head tail => leaves head ++ slotLeaves tail

end

mutual

theorem flatMap_writes_leaves : (a : Value) → a.leaves.flatMap writes = a.writes
  | int _ | bool _ | char _ | text _ | absent | present _ => by simp [leaves]
  | tuple slots => by rw [leaves, writes, flatMap_writes_slotLeaves slots]

theorem flatMap_writes_slotLeaves {n : Nat} : (s : Tuple Value n) →
    (slotLeaves s).flatMap writes = slotWrites s
  | .nil => by simp [slotLeaves, slotWrites]
  | .cons a s => by
    rw [slotLeaves, slotWrites, List.flatMap_append, flatMap_writes_leaves a,
      flatMap_writes_slotLeaves s]

end

mutual

theorem kind_ne_tuple_of_mem_leaves {leaf : Value} : (a : Value) → leaf ∈ a.leaves →
    leaf.kind ≠ .tuple
  | int _, hleaf | bool _, hleaf | char _, hleaf | text _, hleaf | absent, hleaf
  | present _, hleaf => by
    obtain rfl := List.mem_singleton.mp (by simpa [leaves] using hleaf)
    simp [kind]
  | tuple slots, hleaf => kind_ne_tuple_of_mem_slotLeaves slots (by simpa [leaves] using hleaf)

theorem kind_ne_tuple_of_mem_slotLeaves {leaf : Value} {n : Nat} : (s : Tuple Value n) →
    leaf ∈ slotLeaves s → leaf.kind ≠ .tuple
  | .nil, hleaf => by simp [slotLeaves] at hleaf
  | .cons a s, hleaf => by
    rw [slotLeaves, List.mem_append] at hleaf
    obtain hhead | htail := hleaf
    · exact kind_ne_tuple_of_mem_leaves a hhead
    · exact kind_ne_tuple_of_mem_slotLeaves s htail

end

theorem leaves_of_tupleFree {a : Value} (hfree : a.tupleFree = true) : a.leaves = [a] := by
  cases a with
  | tuple slots => simp [tupleFree] at hfree
  | _ => simp [leaves]

theorem slotLeaves_of_tupleFree {n : Nat} {s : Tuple Value n}
    (hfree : ∀ a ∈ s.toList, a.tupleFree = true) : slotLeaves s = s.toList := by
  induction s with
  | nil => simp [slotLeaves]
  | cons a s ih =>
    rw [Tuple.toList_cons, List.forall_mem_cons] at hfree
    rw [slotLeaves, leaves_of_tupleFree hfree.1, ih hfree.2]
    rfl

/-- The bytes of a text are written in one piece, so an end mark among them is
    not taken for the end. -/
theorem text_append_inj {a b : String} {xs ys : List Write}
    (hwrites : Write.text a ++ xs = Write.text b ++ ys) : a = b ∧ xs = ys := by
  obtain ⟨hbytes, hrest⟩ : a.toByteArray.data = b.toByteArray.data ∧ xs = ys := by
    simpa [Write.text] using hwrites
  exact ⟨String.toByteArray_inj.mp (ByteArray.ext hbytes), hrest⟩

/-- What a value writes is known to end where it ends: the kind of its first write
    is that of the value, and each kind of value has its own. -/
theorem writes_append_inj {xs ys : List Write} : {a b : Value} → a.tupleFree = true →
    b.tupleFree = true → a.writes ++ xs = b.writes ++ ys → a = b ∧ xs = ys
  | int _, b, _, hb, hwrites => by
    cases b <;> simp_all [writes, Write.text, tupleFree]
  | bool p, b, _, hb, hwrites => by
    cases b with
    | bool q => cases p <;> cases q <;> simp_all [writes]
    | _ => simp_all [writes, Write.text, tupleFree]
  | char _, b, _, hb, hwrites => by
    cases b <;> simp_all [writes, Write.text, tupleFree, Char.ext_iff]
  | text _, b, _, hb, hwrites => by
    cases b with
    | text _ =>
      obtain ⟨rfl, hrest⟩ := text_append_inj (by simpa [writes] using hwrites)
      exact ⟨rfl, hrest⟩
    | _ => simp_all [writes, Write.text, tupleFree]
  | absent, b, _, hb, hwrites => by
    cases b <;> simp_all [writes, Write.text, tupleFree]
  | present a, b, ha, hb, hwrites => by
    cases b with
    | present b =>
      obtain ⟨rfl, hrest⟩ := writes_append_inj (a := a) (b := b) (by simpa [tupleFree] using ha)
        (by simpa [tupleFree] using hb) (by simpa [writes] using hwrites)
      exact ⟨rfl, hrest⟩
    | _ => simp_all [writes, Write.text, tupleFree]

theorem writes_ne_nil {a : Value} (hfree : a.tupleFree = true) : a.writes ≠ [] := by
  cases a with
  | tuple slots => simp [tupleFree] at hfree
  | _ => simp [writes, Write.text]

theorem flatMap_writes_inj {as bs : List Value} (has : ∀ a ∈ as, a.tupleFree = true)
    (hbs : ∀ b ∈ bs, b.tupleFree = true) :
    as.flatMap writes = bs.flatMap writes ↔ as = bs := by
  refine ⟨fun hwrites => ?_, fun heq => heq ▸ rfl⟩
  induction as generalizing bs with
  | nil =>
    cases bs with
    | nil => rfl
    | cons b bs =>
      have hempty : b.writes = [] := (List.append_eq_nil_iff.mp hwrites.symm).1
      exact absurd hempty (writes_ne_nil (hbs b List.mem_cons_self))
  | cons a as ih =>
    rw [List.forall_mem_cons] at has
    cases bs with
    | nil =>
      have hempty : a.writes = [] := (List.append_eq_nil_iff.mp hwrites).1
      exact absurd hempty (writes_ne_nil has.1)
    | cons b bs =>
      rw [List.forall_mem_cons] at hbs
      obtain ⟨rfl, hrest⟩ := writes_append_inj has.1 hbs.1 hwrites
      rw [ih has.2 hbs.2 hrest]

end Value

namespace Tuple

theorem eq_of_beq {n : Nat} {s t : Tuple Value n} (hequal : s.beq Value.beq t = true) : s = t := by
  rw [beq_iff_forall₂] at hequal
  exact toList_injective (List.forall₂_eq_eq_eq ▸ hequal.imp fun _ _ => Value.eq_of_beq)

theorem writes_eq_flatMap {n : Nat} (s : Tuple Value n) :
    s.writes = (Value.slotLeaves s).flatMap Value.writes :=
  (Value.flatMap_writes_slotLeaves s).symm

theorem writes_append {n m : Nat} (s : Tuple Value n) (t : Tuple Value m) :
    (s.append t).writes = s.writes ++ t.writes := by
  induction s with
  | nil => simp [append, writes, Value.slotWrites]
  | cons a s ih =>
    simp only [writes] at ih
    simp [append, writes, Value.slotWrites, ih]

end Tuple

namespace Packed

theorem eq_of_beq {a b : Packed Value} (hequal : a.beq Value.beq b = true) : a = b := by
  have hslots := (beq_iff.mp hequal).2
  exact toList_injective (List.forall₂_eq_eq_eq ▸ hslots.imp fun _ _ => Value.eq_of_beq)

/-- Equal values and tuples, packed or not, write the same. Joined tuples write one
    after another, and a tuple writes what its leaves write, so nesting leaves no
    mark. It is all that is lost: where options hold no tuples, equal writes come
    from equal leaves, and packed tuples without tuples in them are equal if their
    writes are. -/
theorem writes_follow_equality :
    (∀ a b : Value, a.beq b = true → a.writes = b.writes) ∧
    (∀ {n : Nat} (s t : Tuple Value n), s.beq Value.beq t = true → s.writes = t.writes) ∧
    (∀ a b : Packed Value, a.beq Value.beq b = true → a.writes = b.writes) ∧
    (∀ {n m : Nat} (s : Tuple Value n) (t : Tuple Value m),
      (s.append t).writes = s.writes ++ t.writes) ∧
    (∀ a b : Packed Value, b.arity + a.arity ≤ maxArity →
      ∃ c, a.join? b = some c ∧ c.slots.writes = a.slots.writes ++ b.slots.writes) ∧
    (∀ {n : Nat} (s : Tuple Value n), s.writes = (Value.slotLeaves s).flatMap Value.writes ∧
      ∀ leaf ∈ Value.slotLeaves s, leaf.kind ≠ .tuple) ∧
    (∀ {n m : Nat} (s : Tuple Value n) (t : Tuple Value m),
      (∀ leaf ∈ Value.slotLeaves s, leaf.tupleFree = true) →
      (∀ leaf ∈ Value.slotLeaves t, leaf.tupleFree = true) →
        (s.writes = t.writes ↔ Value.slotLeaves s = Value.slotLeaves t)) ∧
    ∀ a b : Packed Value, (∀ slot ∈ a.toList, slot.tupleFree = true) →
      (∀ slot ∈ b.toList, slot.tupleFree = true) → a.writes = b.writes →
        a.arity = b.arity ∧ a.toList = b.toList := by
  refine ⟨?values, ?tuples, ?packed, Tuple.writes_append, ?joined, ?leaves, ?nested, ?decoded⟩
  case values => exact fun a b hequal => congrArg Value.writes (Value.eq_of_beq hequal)
  case tuples => exact fun s t hequal => congrArg Tuple.writes (Tuple.eq_of_beq hequal)
  case packed => exact fun a b hequal => congrArg writes (eq_of_beq hequal)
  case joined =>
    intro a b hroom
    exact ⟨⟨_, a.slots.append b.slots, hroom⟩, by rw [join?, dif_pos hroom],
      Tuple.writes_append a.slots b.slots⟩
  case leaves =>
    intro n s
    exact ⟨s.writes_eq_flatMap, fun leaf => Value.kind_ne_tuple_of_mem_slotLeaves s⟩
  case nested =>
    intro n m s t hs ht
    rw [s.writes_eq_flatMap, t.writes_eq_flatMap, Value.flatMap_writes_inj hs ht]
  case decoded =>
    intro a b ha hb hwrites
    obtain ⟨harity, hslots⟩ := List.cons.inj hwrites
    have hleaves : a.toList = b.toList := by
      rw [a.slots.writes_eq_flatMap, b.slots.writes_eq_flatMap, Value.slotLeaves_of_tupleFree ha,
        Value.slotLeaves_of_tupleFree hb] at hslots
      exact (Value.flatMap_writes_inj ha hb).mp hslots
    exact ⟨Write.variant.inj harity, hleaves⟩

/-- Texts that are empty or look like an end mark, and options in options. -/
theorem writes_follow_equality_texts_and_options :
    let a : Packed Value := ⟨3, .ofList [.text "", .present (.present .absent), .text "\x00ÿ"],
      by decide⟩
    (∀ slot ∈ a.toList, slot.tupleFree = true) ∧
      ∀ b : Packed Value, (∀ slot ∈ b.toList, slot.tupleFree = true) → b.writes = a.writes →
        b.toList = [.text "", .present (.present .absent), .text "\x00ÿ"] := by
  intro a
  have hfree : ∀ slot ∈ a.toList, slot.tupleFree = true := by decide
  obtain ⟨-, -, -, -, -, -, -, hdecoded⟩ := writes_follow_equality
  exact ⟨hfree, fun b hb hwrites => (hdecoded b a hb hfree hwrites).2⟩

end Packed

end Polyad
