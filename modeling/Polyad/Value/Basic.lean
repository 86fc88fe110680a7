import Polyad.Tuple.Basic
/-!
The values that slots hold: integers of 64 bits, booleans, characters, texts,
values that may be absent, and tuples again. Equality is structural.
-/

namespace Polyad

/-- What a slot holds. -/
inductive Value where
  | int (number : Int64)
  | bool (answer : Bool)
  | char (letter : Char)
  | text (letters : String)
  | absent
  | present (inner : Value)
  | tuple {n : Nat} (slots : Tuple Value n)

/-- The kinds of values, in the order in which values of different kinds
    stand. -/
inductive Kind where
  | int | bool | char | text | optional | tuple
  deriving DecidableEq, Repr

namespace Kind

/-- The place of a kind in the order of kinds. -/
def rank : Kind → Nat
  | int => 0
  | bool => 1
  | char => 2
  | text => 3
  | optional => 4
  | tuple => 5

/-- The short name of a kind. -/
def name : Kind → String
  | int => "int"
  | bool => "bool"
  | char => "char"
  | text => "str"
  | optional => "opt"
  | tuple => "tuple"

end Kind

namespace Value

/-- The kind of a value. -/
def kind : Value → Kind
  | int _ => .int
  | bool _ => .bool
  | char _ => .char
  | text _ => .text
  | absent | present _ => .optional
  | tuple _ => .tuple

/-- The number of letters of a text and of slots of a tuple. Other values
    have length zero. -/
def length : Value → Nat
  | text letters => letters.length
  | @tuple n _ => n
  | _ => 0

/-- An optional value as one value. -/
def ofOption : Option Value → Value
  | none => absent
  | some inner => present inner

mutual

/-- Structural equality. -/
def beq : Value → Value → Bool
  | int a, int b => a == b
  | bool a, bool b => a == b
  | char a, char b => a == b
  | text a, text b => a == b
  | absent, absent => true
  | present a, present b => beq a b
  | tuple s, tuple t => beqSlots s t
  | _, _ => false

/-- Equality of the slots of two tuples, which may differ in arity. -/
def beqSlots {n m : Nat} : Tuple Value n → Tuple Value m → Bool
  | .nil, .nil => true
  | .cons a s, .cons b t => beq a b && beqSlots s t
  | _, _ => false

end

/-- The tuple value with the given slots. -/
def ofSlots (slots : List Value) : Value :=
  tuple (Tuple.ofList slots)

mutual

theorem beq_refl : (a : Value) → a.beq a = true
  | int _ | bool _ | char _ | text _ => by simp [beq]
  | absent => by simp [beq]
  | present a => by simpa [beq] using beq_refl a
  | tuple s => by simpa [beq] using beqSlots_refl s

private theorem beqSlots_refl {n : Nat} : (s : Tuple Value n) → beqSlots s s = true
  | .nil => by simp [beqSlots]
  | .cons a s => by simp [beqSlots, beq_refl a, beqSlots_refl s]

end

mutual

theorem eq_of_beq : {a b : Value} → a.beq b = true → a = b
  | int _, int _, h | bool _, bool _, h | char _, char _, h | text _, text _, h => by
    simpa [beq] using h
  | absent, absent, _ => rfl
  | present a, present b, h => by rw [eq_of_beq (a := a) (b := b) (by simpa [beq] using h)]
  | @tuple n s, @tuple m t, h => by
    obtain ⟨harity, hslots⟩ := eq_of_beqSlots (s := s) (t := t) (by simpa [beq] using h)
    subst harity
    rw [eq_of_heq hslots]

private theorem eq_of_beqSlots {n m : Nat} : {s : Tuple Value n} → {t : Tuple Value m} →
    beqSlots s t = true → n = m ∧ HEq s t
  | .nil, .nil, _ => ⟨rfl, .rfl⟩
  | .cons a s, .cons b t, h => by
    simp only [beqSlots, Bool.and_eq_true] at h
    obtain rfl := eq_of_beq h.1
    obtain ⟨harity, hslots⟩ := eq_of_beqSlots h.2
    subst harity
    obtain rfl := eq_of_heq hslots
    exact ⟨rfl, .rfl⟩

end

instance : BEq Value := ⟨beq⟩

instance : LawfulBEq Value where
  eq_of_beq := eq_of_beq
  rfl := beq_refl _

instance : DecidableEq Value := fun a b =>
  if h : a.beq b = true then isTrue (eq_of_beq h)
  else isFalse fun heq => h (heq ▸ beq_refl a)

end Value

end Polyad
