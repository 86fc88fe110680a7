import Polyad.Lexical.Number
/-!
Digits that are written can be read back, up to the first character that belongs to
no number.
-/

namespace Polyad.Number

/-- Whether digits in front of a text end where it begins. -/
def Stops (rest : List Char) : Prop :=
  ∀ c ∈ rest.head?, c ≠ '_' ∧ Quoted.hexValue? c = none

/-- What reading one digit more makes of the value so far. -/
def extend (base : Nat) (value : Option Nat) (digit : Nat) : Option Nat :=
  some (value.getD 0 * base + digit)

theorem hexValue?_underscore : Quoted.hexValue? '_' = none := by decide

theorem hexValue?_digitChar {d : Nat} (hd : d < 16) : Quoted.hexValue? d.digitChar = some d := by
  revert d
  decide

/-- One digit more. -/
theorem digits?_digit {base d : Nat} {c : Char} (hd : d < base)
    (hvalue : Quoted.hexValue? c = some d) (value : Option Nat) (rest : List Char) :
    digits? base value (c :: rest) = digits? base (extend base value d) rest := by
  have hmark : c ≠ '_' := by
    rintro rfl
    rw [hexValue?_underscore] at hvalue
    cases hvalue
  rw [digits?, if_neg hmark, hvalue]
  simp only [if_pos hd, extend]

theorem digits?_digitChar {base d : Nat} (hd : d < base) (hbase : base ≤ 16)
    (value : Option Nat) (rest : List Char) :
    digits? base value (d.digitChar :: rest) =
      digits? base (some (value.getD 0 * base + d)) rest := by
  have hhex : d < 16 := Nat.lt_of_lt_of_le hd hbase
  exact digits?_digit hd (hexValue?_digitChar hhex) value rest

theorem digits?_toDigits {base : Nat} (hlow : 1 < base) (hbase : base ≤ 16) (n : Nat)
    (rest : List Char) :
    digits? base none (Nat.toDigits base n ++ rest) = digits? base (some n) rest := by
  induction n using Nat.strongRecOn generalizing rest with
  | _ n ih =>
    by_cases hsmall : n < base
    · rw [Nat.toDigits_of_lt_base hsmall, List.singleton_append, digits?_digitChar hsmall hbase]
      simp
    · have hpart : n / base < n := Nat.div_lt_self (by omega) hlow
      have hlast : n % base < base := Nat.mod_lt n (by omega)
      rw [Nat.toDigits_of_base_le hlow (by omega), List.append_assoc, ih _ hpart,
        List.singleton_append, digits?_digitChar hlast hbase, Option.getD_some,
        Nat.div_add_mod']

theorem digits?_of_stops {base value : Nat} {rest : List Char} (hrest : Stops rest) :
    digits? base (some value) rest = some (value, rest) := by
  cases rest with
  | nil => rfl
  | cons c rest =>
    obtain ⟨hmark, hvalue⟩ := hrest c rfl
    simp [digits?, hmark, hvalue]

/-- Digits that end are the digits of one number. -/
theorem toDigits_append_inj {base n m : Nat} (hlow : 1 < base) (hbase : base ≤ 16)
    {xs ys : List Char} (hxs : Stops xs) (hys : Stops ys)
    (htext : Nat.toDigits base n ++ xs = Nat.toDigits base m ++ ys) : n = m ∧ xs = ys := by
  have hread := congrArg (digits? base none) htext
  rw [digits?_toDigits hlow hbase, digits?_toDigits hlow hbase, digits?_of_stops hxs,
    digits?_of_stops hys] at hread
  simpa using hread

/-- Every digit is that of a number below the base. -/
theorem exists_of_mem_toDigits {base n : Nat} (hlow : 1 < base) {c : Char}
    (hmem : c ∈ Nat.toDigits base n) : ∃ d < base, c = d.digitChar := by
  induction n using Nat.strongRecOn with
  | _ n ih =>
    by_cases hsmall : n < base
    · rw [Nat.toDigits_of_lt_base hsmall] at hmem
      exact ⟨n, hsmall, List.mem_singleton.mp hmem⟩
    · rw [Nat.toDigits_of_base_le hlow (by omega), List.mem_append, List.mem_singleton] at hmem
      obtain hmem | rfl := hmem
      · exact ih _ (Nat.div_lt_self (by omega) hlow) hmem
      · exact ⟨n % base, Nat.mod_lt n (by omega), rfl⟩

end Polyad.Number
