import Mathlib.Data.List.Nodup
import Polyad.Code.Name
/-!
Which names of generated code can coincide. A numbered name ends in digits and
its stem has none, so both can be read off it.
-/

namespace Polyad.Code

/-- A name without digits, as stems and unnumbered names are. -/
def Digitless (name : String) : Prop :=
  ∀ c ∈ name.toList, c.isDigit = false

instance (name : String) : Decidable (Digitless name) :=
  decidable_of_iff (name.toList.all (fun c => !c.isDigit) = true) (by simp [Digitless])

theorem isDigit_of_mem_toString {n : Nat} {c : Char} (hmem : c ∈ (toString n).toList) :
    c.isDigit = true := by
  rw [Nat.toString_eq_repr, Nat.toList_repr] at hmem
  exact Nat.isDigit_of_mem_toDigits (by decide) (by decide) hmem

theorem toList_toString_ne_nil (n : Nat) : (toString n).toList ≠ [] := by
  rw [Nat.toString_eq_repr, Nat.toList_repr]
  exact Nat.toDigits_ne_nil

theorem toString_nat_injective {i j : Nat}
    (hlist : (toString i).toList = (toString j).toList) : i = j := by
  rw [Nat.toString_eq_repr, Nat.toString_eq_repr, Nat.toList_repr, Nat.toList_repr] at hlist
  simpa using congrArg (fun digits => Nat.ofDigitChars 10 digits 0) hlist

/-- What stands in front of the digits is the stem. -/
theorem takeWhile_numberedName {stem : String} (hstem : Digitless stem) (number : Nat) :
    (numberedName stem number).toList.takeWhile (fun c => !c.isDigit) = stem.toList := by
  rw [numberedName, String.toList_append, List.takeWhile_append_of_pos]
  · cases hdigits : (toString number).toList with
    | nil => exact absurd hdigits (toList_toString_ne_nil number)
    | cons c rest =>
      have hfirst : c.isDigit = true :=
        isDigit_of_mem_toString (n := number) (hdigits ▸ List.mem_cons_self)
      simp [hfirst]
  · intro c hc
    simp [hstem c hc]

@[simp] theorem numberedName_inj {stem : String} {i j : Nat} :
    numberedName stem i = numberedName stem j ↔ i = j := by
  constructor
  · intro hname
    have hlist := congrArg String.toList hname
    simp only [numberedName, String.toList_append] at hlist
    exact toString_nat_injective (List.append_cancel_left hlist)
  · rintro rfl
    rfl

theorem stem_eq_of_numberedName_eq {a b : String} {i j : Nat} (ha : Digitless a)
    (hb : Digitless b) (hname : numberedName a i = numberedName b j) : a = b := by
  have hlist := congrArg (fun name => name.toList.takeWhile fun c => !c.isDigit) hname
  rw [takeWhile_numberedName ha, takeWhile_numberedName hb] at hlist
  exact String.toList_inj.mp hlist

/-- A name without digits is not a numbered one. -/
theorem Digitless.ne_numberedName {name : String} (hname : Digitless name) (stem : String)
    (number : Nat) : name ≠ numberedName stem number := by
  rintro rfl
  obtain ⟨c, rest, hdigits⟩ := List.exists_cons_of_ne_nil (toList_toString_ne_nil number)
  have hmem : c ∈ (toString number).toList := hdigits ▸ List.mem_cons_self
  have hdigit := isDigit_of_mem_toString hmem
  have hnumbered : c ∈ (numberedName stem number).toList := by
    rw [numberedName, String.toList_append]
    exact List.mem_append_right _ hmem
  rw [hname c hnumbered] at hdigit
  cases hdigit

theorem nodup_series (stem : String) (count : Nat) : (series stem count).Nodup := by
  refine List.Nodup.map ?_ List.nodup_range
  intro i j hname
  have hnumber := numberedName_inj.mp hname
  omega

end Polyad.Code
