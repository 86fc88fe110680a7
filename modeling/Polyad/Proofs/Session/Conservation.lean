import Mathlib.Data.List.Perm.Basic
import Mathlib.Data.Multiset.AddSub
import Polyad.Proofs.Session.Lists
/-!
Where the values of a session go. Changes that compute nothing only move values
into a tuple, out of it and within it. What comes in and what goes out is
recorded, and the books balance at the end of every run. The place of a slot is
followed through a run, and only an exchange changes the order of two slots.
-/

namespace Polyad

/-- A change that computes no value. -/
inductive Move where
  | set (number : Nat) (value : Value)
  | erase (number : Nat)
  | pushFront (value : Value)
  | pushBack (value : Value)
  | append (value : Value)
  | join (other : Packed Value)
  | swap

namespace Move

/-- The change that a move is. -/
def change : Move → Change
  | set number value => .set number value
  | erase number => .erase number
  | pushFront value => .pushFront value
  | pushBack value => .pushBack value
  | append value => .append value
  | join other => .join other
  | swap => .swap

/-- The tuple after a move, which is the old one if the move was refused. -/
def next (t : Packed Value) (m : Move) : Packed Value :=
  Step.next t (.change m.change)

/-- The tuple after some moves. -/
def final (t : Packed Value) (moves : List Move) : Packed Value :=
  (Step.run t (moves.map fun m => .change m.change)).2

/-- Whether a move is not refused. -/
def takesEffect (t : Packed Value) (m : Move) : Bool :=
  (m.change.perform t).value.isOk

/-- The values that a move takes out of a tuple, if it takes effect. -/
def taken (t : Packed Value) : Move → List Value
  | set number _ | erase number => (t.get? number).toList
  | _ => []

/-- The values that a move puts into a tuple, if it takes effect. -/
def given : Move → List Value
  | set _ value | pushFront value | pushBack value | append value => [value]
  | join other => other.toList
  | erase _ | swap => []

/-- Where the slot at a position stands after a move that takes effect. A slot
    that is dropped or written over stands nowhere. -/
def place (position : Nat) : Move → Option Nat
  | set number _ => if position + 1 = number then none else some position
  | erase number =>
    if position + 1 = number then none
    else some (if position + 1 < number then position else position - 1)
  | pushFront _ => some (position + 1)
  | pushBack _ | append _ | join _ => some position
  | swap => some (1 - position)

/-- The values that go out of a tuple in the course of some moves. -/
def outflow (t : Packed Value) : List Move → List Value
  | [] => []
  | m :: rest => (if m.takesEffect t then m.taken t else []) ++ outflow (m.next t) rest

/-- The values that come into a tuple in the course of some moves. -/
def inflow (t : Packed Value) : List Move → List Value
  | [] => []
  | m :: rest => (if m.takesEffect t then m.given else []) ++ inflow (m.next t) rest

/-- Where the slot at a position stands after some moves, if it is still there. -/
def follow (t : Packed Value) (position : Nat) : List Move → Option Nat
  | [] => some position
  | m :: rest =>
    (if m.takesEffect t then m.place position else some position).bind fun position =>
      follow (m.next t) position rest

/-- Among some moves no exchange takes effect. -/
def Exchangeless (t : Packed Value) : List Move → Prop
  | [] => True
  | m :: rest => (m = swap → m.takesEffect t = false) ∧ Exchangeless (m.next t) rest

theorem takesEffect_iff (t : Packed Value) (m : Move) :
    m.takesEffect t = true ↔ m.change.Applies t.toList := by
  have hslots := m.change.slotsAfter_eq_listAfter t
  rw [Change.slotsAfter, Change.listAfter] at hslots
  rw [takesEffect]
  cases hvalue : (m.change.perform t).value with
  | ok next =>
    rw [hvalue] at hslots
    refine iff_of_true rfl ?_
    by_contra hrefused
    rw [if_neg hrefused] at hslots
    cases hslots
  | error refusal =>
    rw [hvalue] at hslots
    refine iff_of_false Bool.false_ne_true ?_
    intro happlies
    rw [if_pos happlies] at hslots
    cases hslots

theorem toList_next (t : Packed Value) (m : Move) :
    (m.next t).toList = if m.takesEffect t then m.change.effect t.toList else t.toList := by
  rw [next, Step.toList_next, Step.onList]
  exact if_congr (takesEffect_iff t m).symm rfl rfl

theorem toList_get?_of_lt {t : Packed Value} {k : Nat} (hk : k < t.toList.length) :
    (t.get? (k + 1)).toList = [t.toList[k]] := by
  rw [t.get?_succ, List.getElem?_eq_getElem hk, Option.toList_some]

theorem coe_eq_cons_eraseIdx {slots : List Value} {k : Nat} (hk : k < slots.length) :
    (slots : Multiset Value) = slots[k] ::ₘ (slots.eraseIdx k : Multiset Value) :=
  (Multiset.coe_eq_coe.mpr (List.getElem_cons_eraseIdx_perm hk)).symm

/-- What a move takes out and what it puts in make up for what it changes. -/
theorem effect_add_taken {t : Packed Value} {m : Move} (happlies : m.change.Applies t.toList) :
    (m.change.effect t.toList : Multiset Value) + m.taken t = t.toList + m.given := by
  cases m with
  | set number value =>
    obtain ⟨k, rfl⟩ := Nat.exists_eq_add_one_of_ne_zero (Nat.ne_of_gt happlies.1)
    have hk : k < t.toList.length := happlies.2
    have hset : (t.toList.set k value : Multiset Value) = value ::ₘ (t.toList.eraseIdx k) :=
      Multiset.coe_eq_coe.mpr (List.set_perm_cons_eraseIdx hk value)
    rw [coe_eq_cons_eraseIdx hk]
    simp only [change, Change.effect, taken, given, Nat.add_sub_cancel, toList_get?_of_lt hk,
      Multiset.coe_singleton, hset, Multiset.add_comm _ {_}, Multiset.singleton_add]
    exact Multiset.cons_swap _ _ _
  | erase number =>
    obtain ⟨k, rfl⟩ := Nat.exists_eq_add_one_of_ne_zero (Nat.ne_of_gt happlies.1)
    have hk : k < t.toList.length := happlies.2
    rw [coe_eq_cons_eraseIdx hk]
    simp only [change, Change.effect, taken, given, Nat.add_sub_cancel, toList_get?_of_lt hk,
      Multiset.coe_singleton, Multiset.coe_nil, Multiset.add_zero, Multiset.add_comm _ {_},
      Multiset.singleton_add]
  | pushFront value =>
    simp only [change, Change.effect, taken, given, Multiset.coe_add, List.append_nil]
    exact Multiset.coe_eq_coe.mpr (List.perm_append_singleton value t.toList).symm
  | pushBack value | append value | join other =>
    simp only [change, Change.effect, taken, given, Multiset.coe_add, List.append_nil]
  | swap =>
    simp only [change, Change.effect, taken, given, Multiset.coe_reverse]

theorem next_add_taken (t : Packed Value) (m : Move) :
    ((m.next t).toList : Multiset Value) + (if m.takesEffect t then m.taken t else []) =
      t.toList + (if m.takesEffect t then m.given else []) := by
  rw [toList_next]
  by_cases heffect : m.takesEffect t = true
  · simp only [if_pos heffect]
    exact effect_add_taken ((takesEffect_iff t m).mp heffect)
  · simp only [if_neg heffect]

theorem final_cons (t : Packed Value) (m : Move) (rest : List Move) :
    final t (m :: rest) = final (m.next t) rest := rfl

/-- What goes out and what comes in make up for what a run changes. -/
theorem final_add_outflow (t : Packed Value) (moves : List Move) :
    ((final t moves).toList : Multiset Value) + outflow t moves = t.toList + inflow t moves := by
  induction moves generalizing t with
  | nil => rfl
  | cons m rest ih =>
    have hstep := next_add_taken t m
    have hrest := ih (m.next t)
    rw [final_cons, outflow, inflow, ← Multiset.coe_add, ← Multiset.coe_add]
    calc ((final (m.next t) rest).toList : Multiset Value) +
          ((if m.takesEffect t then m.taken t else []) + outflow (m.next t) rest)
      _ = (final (m.next t) rest).toList + outflow (m.next t) rest +
            (if m.takesEffect t then m.taken t else []) := by
          rw [Multiset.add_comm _ (outflow (m.next t) rest : Multiset Value), Multiset.add_assoc]
      _ = (m.next t).toList + (if m.takesEffect t then m.taken t else []) +
            inflow (m.next t) rest := by
          rw [hrest, Multiset.add_assoc, Multiset.add_comm (inflow _ _ : Multiset Value),
            Multiset.add_assoc]
      _ = t.toList + ((if m.takesEffect t then m.given else []) + inflow (m.next t) rest) := by
          rw [hstep, Multiset.add_assoc]

/-- A move that takes effect leaves the value of a slot that stays. -/
theorem getElem?_effect {t : Packed Value} {m : Move} (happlies : m.change.Applies t.toList)
    {i p : Nat} (hi : i < t.toList.length) (hplace : m.place i = some p) :
    (m.change.effect t.toList)[p]? = t.toList[i]? := by
  cases m with
  | set number value =>
    simp only [place, Option.ite_none_left_eq_some, Option.some.injEq] at hplace
    obtain ⟨hother, rfl⟩ := hplace
    have hpositive : 0 < number := happlies.1
    exact List.getElem?_set_ne (by omega)
  | erase number =>
    simp only [place, Option.ite_none_left_eq_some, Option.some.injEq] at hplace
    obtain ⟨hother, rfl⟩ := hplace
    have hpositive : 0 < number := happlies.1
    simp only [change, Change.effect, List.getElem?_eraseIdx]
    by_cases hbefore : i + 1 < number
    · rw [if_pos hbefore, if_pos (by omega)]
    · rw [if_neg hbefore, if_neg (by omega), Nat.sub_add_cancel (by omega)]
  | pushFront value =>
    cases hplace
    rfl
  | pushBack value | append value | join other =>
    cases hplace
    exact List.getElem?_append_left hi
  | swap =>
    cases hplace
    have hpair : t.toList.length = 2 := happlies
    rw [change, Change.effect, List.getElem?_reverse (by omega)]
    congr 1
    omega

theorem getElem?_next {t : Packed Value} {m : Move} {i p : Nat} (hi : i < t.toList.length)
    (hplace : (if m.takesEffect t then m.place i else some i) = some p) :
    (m.next t).toList[p]? = t.toList[i]? := by
  rw [toList_next]
  by_cases heffect : m.takesEffect t = true
  · rw [if_pos heffect] at hplace ⊢
    exact getElem?_effect ((takesEffect_iff t m).mp heffect) hi hplace
  · rw [if_neg heffect] at hplace ⊢
    cases hplace
    rfl

/-- A slot that a run keeps is found where it is followed to. -/
theorem getElem?_final {t : Packed Value} {moves : List Move} {i p : Nat}
    (hi : i < t.toList.length) (hfollow : follow t i moves = some p) :
    (final t moves).toList[p]? = t.toList[i]? := by
  induction moves generalizing t i with
  | nil =>
    cases hfollow
    rfl
  | cons m rest ih =>
    obtain ⟨k, hplace, hrest⟩ := Option.bind_eq_some_iff.mp hfollow
    have hvalue := getElem?_next hi hplace
    have hk : k < (m.next t).toList.length := by
      rw [List.getElem?_eq_getElem hi] at hvalue
      exact (List.getElem?_eq_some_iff.mp hvalue).1
    rw [final_cons, ih hk hrest, hvalue]

/-- Two slots that stay keep their order in every move but an exchange. -/
theorem place_lt_place {slots : List Value} {m : Move} (happlies : m.change.Applies slots)
    (hmove : m ≠ swap) {i j p q : Nat} (hij : i < j) (hp : m.place i = some p)
    (hq : m.place j = some q) : p < q := by
  cases m with
  | set number value =>
    simp only [place, Option.ite_none_left_eq_some, Option.some.injEq] at hp hq
    omega
  | erase number =>
    simp only [place, Option.ite_none_left_eq_some, Option.some.injEq] at hp hq
    obtain ⟨hfirst, rfl⟩ := hp
    obtain ⟨hsecond, rfl⟩ := hq
    have hpositive : 0 < number := happlies.1
    split <;> split <;> omega
  | pushFront value | pushBack value | append value | join other =>
    cases hp
    cases hq
    omega
  | swap => exact absurd rfl hmove

theorem follow_lt_follow {t : Packed Value} {moves : List Move} (hmoves : Exchangeless t moves)
    {i j p q : Nat} (hij : i < j) (hp : follow t i moves = some p)
    (hq : follow t j moves = some q) : p < q := by
  induction moves generalizing t i j with
  | nil =>
    cases hp
    cases hq
    exact hij
  | cons m rest ih =>
    obtain ⟨hfirst, hmoves⟩ := hmoves
    obtain ⟨k, hplace, hp⟩ := Option.bind_eq_some_iff.mp hp
    obtain ⟨l, hplace', hq⟩ := Option.bind_eq_some_iff.mp hq
    refine ih hmoves ?_ hp hq
    by_cases heffect : m.takesEffect t = true
    · rw [if_pos heffect] at hplace hplace'
      have hmove : m ≠ swap := by
        intro hswap
        rw [hfirst hswap] at heffect
        cases heffect
      exact place_lt_place ((takesEffect_iff t m).mp heffect) hmove hij hplace hplace'
    · rw [if_neg heffect] at hplace hplace'
      cases hplace
      cases hplace'
      exact hij

theorem final_append (t : Packed Value) (before after : List Move) :
    final t (before ++ after) = final (final t before) after := by
  induction before generalizing t with
  | nil => rfl
  | cons m rest ih => exact ih (m.next t)

/-- What a session of moves holds at its end, together with what went out, is what
    it held at its start, together with what came in. From any point of the session
    on, a slot that is neither dropped nor written over keeps its value, and two such
    slots keep their order unless an exchange takes effect. -/
theorem session_conserves (start : Packed Value) (moves : List Move) :
    ((final start moves).toList : Multiset Value) + outflow start moves =
        start.toList + inflow start moves ∧
      ∀ done,
        let t := final start (moves.take done)
        let rest := moves.drop done
        (∀ i < t.arity, ∀ p, follow t i rest = some p →
          p < (final start moves).arity ∧
            (final start moves).toList[p]? = t.toList[i]?) ∧
        (Exchangeless t rest → ∀ i j p q, i < j → follow t i rest = some p →
          follow t j rest = some q → p < q) := by
  refine ⟨final_add_outflow start moves, ?_⟩
  intro done t rest
  have hfinal : final start moves = final t rest := by
    rw [← final_append, List.take_append_drop]
  refine ⟨?_, fun hmoves i j p q => follow_lt_follow hmoves⟩
  intro i hi p hfollow
  have hvalue := getElem?_final (by rwa [t.length_toList]) hfollow
  rw [hfinal]
  refine ⟨?_, hvalue⟩
  have hlength : i < t.toList.length := by rwa [t.length_toList]
  rw [List.getElem?_eq_getElem hlength] at hvalue
  have hp := (List.getElem?_eq_some_iff.mp hvalue).1
  rwa [Packed.length_toList] at hp

end Move

end Polyad
