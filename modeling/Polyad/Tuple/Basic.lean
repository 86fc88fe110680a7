/-!
Tuples of a fixed number of slots. A tuple is read through `toList`, which
loses nothing: two tuples with the same slots in the same order are equal.
-/

namespace Polyad

universe u v w

/-- A tuple of `n` slots. The arity belongs to the type, so an operation that
    a tuple is too small or too large for cannot be written down. -/
inductive Tuple (α : Type u) : Nat → Type u
  | nil : Tuple α 0
  | cons {n : Nat} (head : α) (tail : Tuple α n) : Tuple α (n + 1)
  deriving Repr

namespace Tuple

variable {α : Type u} {β : Type v} {γ : Type w}

/-- Two tuples of one arity are without slots or begin with a slot each. -/
@[elab_as_elim] theorem induction₂ {motive : (n : Nat) → Tuple α n → Tuple β n → Prop}
    (nil : motive 0 nil nil)
    (cons : ∀ n a b s t, motive n s t → motive (n + 1) (cons a s) (cons b t))
    {n : Nat} (s : Tuple α n) (t : Tuple β n) : motive n s t := by
  induction s with
  | nil => cases t; exact nil
  | cons a s ih => cases t with | cons b t => exact cons _ a b s t (ih t)

/-- Three tuples of one arity are without slots or begin with a slot each. -/
@[elab_as_elim] theorem induction₃
    {motive : (n : Nat) → Tuple α n → Tuple β n → Tuple γ n → Prop}
    (nil : motive 0 nil nil nil)
    (cons : ∀ n a b c s t u, motive n s t u → motive (n + 1) (cons a s) (cons b t) (cons c u))
    {n : Nat} (s : Tuple α n) (t : Tuple β n) (u : Tuple γ n) : motive n s t u := by
  induction s, t using induction₂ with
  | nil => cases u; exact nil
  | cons n a b s t ih => cases u with | cons c u => exact cons n a b c s t u (ih u)

/-- The slots in order. -/
def toList {n : Nat} : Tuple α n → List α
  | nil => []
  | cons head tail => head :: tail.toList

@[simp] theorem toList_nil : (nil : Tuple α 0).toList = [] := rfl

@[simp] theorem toList_cons {n : Nat} (head : α) (tail : Tuple α n) :
    (cons head tail).toList = head :: tail.toList := rfl

@[simp] theorem length_toList {n : Nat} (t : Tuple α n) : t.toList.length = n := by
  induction t with
  | nil => rfl
  | cons head tail ih => simp [ih]

/-- Equal slots make equal tuples. -/
theorem toList_injective {n : Nat} {a b : Tuple α n} (hlist : a.toList = b.toList) : a = b := by
  induction a with
  | nil => cases b; rfl
  | cons head tail ih =>
    cases b with
    | cons head' tail' =>
      simp only [toList_cons, List.cons.injEq] at hlist
      rw [hlist.1, ih hlist.2]

theorem toList_inj {n : Nat} {a b : Tuple α n} : a.toList = b.toList ↔ a = b :=
  ⟨toList_injective, fun heq => heq ▸ rfl⟩

/-- The tuple whose slots are the given values. -/
def ofList : (values : List α) → Tuple α values.length
  | [] => nil
  | value :: rest => cons value (ofList rest)

@[simp] theorem toList_ofList (values : List α) : (ofList values).toList = values := by
  induction values with
  | nil => rfl
  | cons value rest ih => simp [ofList, ih]

/-- What is asked of a tuple at its arity can be asked of the tuple built from
    its slots. -/
theorem map_ofList {γ : Type v} (f : (n : Nat) → Option (Tuple α n → γ)) {n : Nat}
    (t : Tuple α n) :
    (f t.toList.length).map (fun g => g (ofList t.toList)) = (f n).map fun g => g t := by
  generalize hlist : t.toList = values
  have harity : values.length = n := by rw [← hlist, length_toList]
  subst harity
  have hsame : t = ofList values := toList_injective (by rw [hlist, toList_ofList])
  rw [hsame]

/-- The tuple of arity `n` with the given values, if there are `n` of them. -/
def ofList? : (n : Nat) → List α → Option (Tuple α n)
  | 0, [] => some nil
  | n + 1, value :: rest => (ofList? n rest).map (cons value)
  | _, _ => none

theorem ofList?_eq_some {n : Nat} {values : List α} {t : Tuple α n} :
    ofList? n values = some t ↔ values = t.toList := by
  induction t generalizing values with
  | nil => cases values <;> simp [ofList?]
  | cons head tail ih =>
    cases values with
    | nil => simp [ofList?]
    | cons value rest =>
      simp only [ofList?, Option.map_eq_some_iff, toList_cons, List.cons.injEq, cons.injEq]
      constructor
      · rintro ⟨u, hrest, hhead, rfl⟩
        exact ⟨hhead, ih.mp hrest⟩
      · rintro ⟨hhead, hrest⟩
        exact ⟨tail, ih.mpr hrest, hhead, rfl⟩

/-- The value in a slot. -/
def get : {n : Nat} → Tuple α n → Fin n → α
  | _, cons head _, ⟨0, _⟩ => head
  | _, cons _ tail, ⟨k + 1, hk⟩ => tail.get ⟨k, Nat.lt_of_succ_lt_succ hk⟩

theorem getElem?_toList {n : Nat} (t : Tuple α n) (k : Fin n) :
    t.toList[k.val]? = some (t.get k) := by
  induction t with
  | nil => exact k.elim0
  | cons head tail ih =>
    obtain ⟨k, hk⟩ := k
    cases k with
    | zero => rfl
    | succ k => simpa [get] using ih ⟨k, Nat.lt_of_succ_lt_succ hk⟩

/-- Slots are numbered from one wherever a number is read or written. -/
def slot? (n number : Nat) : Option (Fin n) :=
  if h : 0 < number ∧ number ≤ n then some ⟨number - 1, by omega⟩ else none

theorem slot?_eq_some {n number : Nat} {k : Fin n} :
    slot? n number = some k ↔ number = k.val + 1 := by
  unfold slot?
  split
  · rename_i h
    simp only [Option.some.injEq, Fin.ext_iff]
    omega
  · rename_i h
    simp only [reduceCtorEq, false_iff]
    have := k.isLt
    omega

theorem slot?_eq_none {n number : Nat} :
    slot? n number = none ↔ ¬ (0 < number ∧ number ≤ n) := by
  unfold slot?
  split
  · rename_i h
    simp [h]
  · rename_i h
    simp [h]

/-- The same function on every slot. -/
def map {n : Nat} (f : α → β) : Tuple α n → Tuple β n
  | nil => nil
  | cons head tail => cons (f head) (tail.map f)

@[simp] theorem toList_map {n : Nat} (f : α → β) (t : Tuple α n) :
    (t.map f).toList = t.toList.map f := by
  induction t with
  | nil => rfl
  | cons head tail ih => simp [map, ih]

/-- The same value in every slot. -/
def replicate : (n : Nat) → α → Tuple α n
  | 0, _ => nil
  | n + 1, value => cons value (replicate n value)

@[simp] theorem toList_replicate (n : Nat) (value : α) :
    (replicate n value).toList = List.replicate n value := by
  induction n with
  | zero => rfl
  | succ n ih => simp [replicate, List.replicate_succ, ih]

theorem get_replicate {n : Nat} (value : α) (k : Fin n) : (replicate n value).get k = value := by
  induction n with
  | zero => exact k.elim0
  | succ n ih =>
    cases k using Fin.cases with
    | zero => rfl
    | succ k => exact ih k

/-- Every slot beside its number, counting from `first`. -/
def numbered {n : Nat} (first : Nat) : Tuple α n → List (Nat × α)
  | nil => []
  | cons head tail => (first, head) :: tail.numbered (first + 1)

end Tuple

end Polyad
