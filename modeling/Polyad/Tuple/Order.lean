import Polyad.Tuple.Basic
/-!
Comparing tuples of one arity slot by slot, from the first slot to the first
one that decides. There is a comparison for slots in a total order, one for
slots that may be incomparable, one built from a comparison of each slot, and
equality.
-/

namespace Polyad.Tuple

universe u v

variable {α : Type u}

/-- Equality of every slot. The slots' own equality may fail to be reflexive. -/
def beq (eq : α → α → Bool) {n : Nat} : Tuple α n → Tuple α n → Bool
  | nil, nil => true
  | cons a s, cons b t => eq a b && beq eq s t

/-- The order of tuples over an order of the slots: the first slot that is
    not equal decides, and no slot after it is looked at. -/
def compare (cmp : α → α → Ordering) {n : Nat} : Tuple α n → Tuple α n → Ordering
  | nil, nil => .eq
  | cons a s, cons b t =>
    match cmp a b with
    | .eq => compare cmp s t
    | decided => decided

/-- The order of tuples whose slots may be incomparable. A slot without an
    answer decides as well, and leaves the tuples incomparable. -/
def partialCompare (cmp : α → α → Option Ordering) {n : Nat} :
    Tuple α n → Tuple α n → Option Ordering
  | nil, nil => some .eq
  | cons a s, cons b t =>
    match cmp a b with
    | some .eq => partialCompare cmp s t
    | decided => decided

/-- Continue a comparison that has come to `answer` with the remaining slots.
    Each slot is compared only while the answer is still `eq`. -/
def compareFrom (answer : Ordering) {n : Nat} :
    Tuple (α → α → Ordering) n → Tuple α n → Tuple α n → Ordering
  | nil, nil, nil => answer
  | cons cmp cmps, cons a s, cons b t =>
    compareFrom (if answer = .eq then cmp a b else answer) cmps s t

/-- The comparison built from one comparison of each slot. -/
def comparator {n : Nat} (cmps : Tuple (α → α → Ordering) n) (s t : Tuple α n) : Ordering :=
  compareFrom .eq cmps s t

/-- The comparison that uses one comparison for every slot. -/
def compareEach {n : Nat} (cmp : α → α → Ordering) (s t : Tuple α n) : Ordering :=
  comparator (replicate n cmp) s t

@[simp] theorem compare_cons (cmp : α → α → Ordering) {n : Nat} (a b : α) (s t : Tuple α n) :
    compare cmp (cons a s) (cons b t) = (cmp a b).then (compare cmp s t) := by
  cases hhead : cmp a b <;> simp [compare, hhead]

/-- What is left of a comparison matters only while the answer is `eq`. -/
theorem compareFrom_eq_then (answer : Ordering) {n : Nat} (cmps : Tuple (α → α → Ordering) n)
    (s t : Tuple α n) : compareFrom answer cmps s t = answer.then (comparator cmps s t) := by
  induction cmps, s, t using induction₃ generalizing answer with
  | nil => cases answer <;> rfl
  | cons n cmp a b cmps s t ih =>
    rw [comparator, compareFrom, compareFrom, ih, ih]
    cases answer <;> rfl

@[simp] theorem comparator_nil : comparator (nil : Tuple (α → α → Ordering) 0) nil nil = .eq := rfl

@[simp] theorem comparator_cons {n : Nat} (cmp : α → α → Ordering)
    (cmps : Tuple (α → α → Ordering) n) (a b : α) (s t : Tuple α n) :
    comparator (cons cmp cmps) (cons a s) (cons b t) = (cmp a b).then (comparator cmps s t) := by
  rw [← compareFrom_eq_then]
  rfl

/-- Comparing in the order of the slots and comparing slot by slot with it
    are the same. -/
theorem compareEach_eq_compare {n : Nat} (cmp : α → α → Ordering) (s t : Tuple α n) :
    compareEach cmp s t = compare cmp s t := by
  induction s, t using induction₂ with
  | nil => rfl
  | cons n a b s t ih =>
    rw [compare_cons, ← ih]
    exact comparator_cons cmp (replicate n cmp) a b s t

variable {m : Type → Type v} [Monad m]

/-- `compareFrom` for comparisons with effects. A slot that is not compared
    has no effect. -/
def compareFromM (answer : Ordering) {n : Nat} :
    Tuple (α → α → m Ordering) n → Tuple α n → Tuple α n → m Ordering
  | nil, nil, nil => return answer
  | cons cmp cmps, cons a s, cons b t => do
    let next ← if answer = .eq then cmp a b else pure answer
    compareFromM next cmps s t

/-- `comparator` for comparisons with effects. -/
def comparatorM {n : Nat} (cmps : Tuple (α → α → m Ordering) n) (s t : Tuple α n) : m Ordering :=
  compareFromM .eq cmps s t

/-- What the comparison operators answer for two things, together with the
    answer that they agree with. -/
structure Verdict where
  eq : Bool
  ne : Bool
  lt : Bool
  le : Bool
  gt : Bool
  ge : Bool
  answer : Option Ordering
  deriving DecidableEq, Repr

/-- Equality goes by the equality of the slots and every other operator by
    their order. All the other operators deny incomparable tuples. -/
def verdict (eq : α → α → Bool) (cmp : α → α → Option Ordering) {n : Nat} (s t : Tuple α n) :
    Verdict :=
  let answer := partialCompare cmp s t
  { eq := beq eq s t
    ne := !beq eq s t
    lt := answer == some .lt
    le := answer == some .lt || answer == some .eq
    gt := answer == some .gt
    ge := answer == some .gt || answer == some .eq
    answer }

/-- The larger of two tuples, and the second of two equal ones. -/
def max (cmp : α → α → Ordering) {n : Nat} (s t : Tuple α n) : Tuple α n :=
  if compare cmp s t = .gt then s else t

/-- The smaller of two tuples, and the first of two equal ones. -/
def min (cmp : α → α → Ordering) {n : Nat} (s t : Tuple α n) : Tuple α n :=
  if compare cmp s t = .gt then t else s

end Polyad.Tuple
