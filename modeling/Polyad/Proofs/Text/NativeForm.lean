import Mathlib.Data.List.Basic
import Polyad.Value.Text
/-!
The debug form beside the one that native tuples have. A native tuple is written slot by
slot; the one without slots is a word, which is padded and cut off as words are. The two
forms differ in such words only.
-/

namespace Polyad

namespace Layout

/-- A debug form of which some parts are written. -/
structure Writer where
  alternate : Bool
  nameless : Bool
  parts : Nat
  written : List Char

namespace Writer

/-- Write the name. -/
def start (alternate : Bool) (name : List Char) : Writer where
  alternate
  nameless := name.isEmpty
  parts := 0
  written := name

/-- Write one more part. The first one opens the parenthesis. -/
def part (writer : Writer) (text : List Char) : Writer :=
  let lead :=
    if writer.alternate then (if writer.parts = 0 then ['(', '\n'] else [])
    else (if writer.parts = 0 then ['('] else [',', ' '])
  { writer with
    parts := writer.parts + 1
    written := writer.written ++ lead ++ if writer.alternate then spreadPart text else text }

/-- Close the parenthesis if a part has opened it. -/
def finish (writer : Writer) : List Char :=
  if writer.parts = 0 then writer.written
  else
    let comma := if writer.parts = 1 ∧ writer.nameless ∧ ¬ writer.alternate then [','] else []
    writer.written ++ comma ++ [')']

/-- What later parts add, when the first one is written. -/
theorem foldl_part (parts : List (List Char)) {writer : Writer} (hparts : writer.parts ≠ 0) :
    parts.foldl part writer =
      { writer with
        parts := writer.parts + parts.length
        written := writer.written ++
          parts.flatMap fun text =>
            if writer.alternate then spreadPart text else [',', ' '] ++ text } := by
  induction parts generalizing writer with
  | nil => simp
  | cons text parts ih =>
    rw [List.foldl_cons, ih (by simp [part])]
    cases halternate : writer.alternate <;>
      simp [part, hparts, halternate, Nat.add_assoc, Nat.add_comm 1]

/-- Writing the parts one by one leaves the debug form of all of them. -/
theorem finish_foldl_part (alternate : Bool) (name text : List Char) (parts : List (List Char)) :
    ((text :: parts).foldl part (start alternate name)).finish =
      tuple alternate name (text :: parts) := by
  have hfirst : (part (start alternate name) text).parts ≠ 0 := by simp [part]
  rw [List.foldl_cons, foldl_part parts hfirst]
  cases alternate <;> simp [part, start, finish, tuple, commaSeparated_cons]

end Writer

section Sizes

/-- Indenting adds no line. -/
theorem count_indentFrom (fresh : Bool) (text : List Char) :
    (indentFrom fresh text).count '\n' = text.count '\n' := by
  induction text generalizing fresh with
  | nil => rfl
  | cons c text ih => cases fresh <;> simp [indentFrom, List.count_cons, ih]

/-- Every line grows by the same number of spaces. -/
theorem length_indentFrom (fresh : Bool) (text : List Char) :
    (indentFrom fresh (text ++ [',', '\n'])).length =
      text.length + 2 + 4 * text.count '\n' + if fresh then 4 else 0 := by
  induction text generalizing fresh with
  | nil => cases fresh <;> simp [indentFrom]
  | cons c text ih =>
    by_cases hline : c = '\n' <;> cases fresh <;> simp [indentFrom, ih, hline] <;> omega

theorem indentFrom_injective (fresh : Bool) : Function.Injective (indentFrom fresh) := by
  intro text text' hsame
  induction text generalizing fresh text' with
  | nil => cases fresh <;> cases text' <;> simp_all [indentFrom]
  | cons c text ih =>
    cases text' with
    | nil => cases fresh <;> simp [indentFrom] at hsame
    | cons c' text' =>
      rw [indentFrom, indentFrom, List.append_cancel_left_eq] at hsame
      obtain ⟨rfl, hrest⟩ := List.cons.inj hsame
      rw [ih _ hrest]

theorem spreadPart_injective : Function.Injective spreadPart := by
  intro text text' hsame
  exact List.append_cancel_right (indentFrom_injective true hsame)

theorem length_spreadPart (text : List Char) :
    (spreadPart text).length = text.length + 6 + 4 * text.count '\n' := by
  rw [spreadPart, length_indentFrom, if_pos rfl]
  omega

theorem count_flatMap_spreadPart (parts : List (List Char)) :
    (parts.flatMap spreadPart).count '\n' = parts.length + parts.flatten.count '\n' := by
  induction parts with
  | nil => rfl
  | cons text parts ih =>
    have htext : (spreadPart text).count '\n' = text.count '\n' + 1 := by
      simp [spreadPart, count_indentFrom]
    simp only [List.flatMap_cons, List.flatten_cons, List.length_cons, List.count_append, htext,
      ih]
    omega

theorem length_flatMap_spreadPart (parts : List (List Char)) :
    (parts.flatMap spreadPart).length =
      6 * parts.length + parts.flatten.length + 4 * parts.flatten.count '\n' := by
  induction parts with
  | nil => rfl
  | cons text parts ih =>
    simp only [List.flatMap_cons, List.flatten_cons, List.length_cons, List.length_append,
      List.count_append, length_spreadPart, ih]
    omega

theorem count_commaSeparated (parts : List (List Char)) :
    (commaSeparated parts).count '\n' = parts.flatten.count '\n' := by
  cases parts with
  | nil => rfl
  | cons text parts =>
    rw [commaSeparated_cons]
    induction parts with
    | nil => simp
    | cons next parts ih => simp_all

theorem length_commaSeparated (text : List Char) (parts : List (List Char)) :
    (commaSeparated (text :: parts)).length =
      2 * parts.length + (text :: parts).flatten.length := by
  rw [commaSeparated_cons]
  induction parts with
  | nil => simp
  | cons next parts ih =>
    simp only [List.flatMap_cons, List.flatten_cons, List.length_cons, List.length_append,
      List.length_nil] at ih ⊢
    omega

variable (alternate : Bool) (name : List Char) (parts parts' : List (List Char))

theorem count_tuple :
    (tuple alternate name parts).count '\n' =
      name.count '\n' + (if alternate then parts.length + 1 else 0) +
        parts.flatten.count '\n' := by
  cases alternate with
  | false =>
    by_cases hlone : parts.length = 1 ∧ name = [] <;>
      simp [tuple, count_commaSeparated, hlone]
  | true =>
    have hopened : ['(', '\n'].count '\n' = 1 := rfl
    have hclosed : [')'].count '\n' = 0 := rfl
    simp only [tuple, if_true, List.count_append, count_flatMap_spreadPart, hopened, hclosed]
    omega

/-- Of two lists of as many parts with as many lines, the longer texts make for the longer
    whole. -/
theorem length_tuple_add (hparts : parts.length = parts'.length)
    (hlines : parts.flatten.count '\n' = parts'.flatten.count '\n') :
    (tuple alternate name parts).length + parts'.flatten.length =
      (tuple alternate name parts').length + parts.flatten.length := by
  cases alternate with
  | true =>
    simp only [tuple, if_true, List.length_append, length_flatMap_spreadPart, hparts, hlines]
    omega
  | false =>
    cases parts with
    | nil =>
      obtain rfl := List.length_eq_zero_iff.mp hparts.symm
      rfl
    | cons text parts =>
      obtain ⟨text', parts', rfl⟩ := List.exists_cons_of_length_eq_add_one hparts.symm
      have hrest : parts.length = parts'.length := by simpa using hparts
      simp only [tuple, hparts, Bool.false_eq_true, if_false, List.length_append,
        length_commaSeparated, hrest]
      omega

end Sizes

/-- Texts side by side can be told apart when their lengths are known. -/
theorem eq_of_flatMap_eq {f : List Char → List Char} (hf : Function.Injective f)
    {parts parts' : List (List Char)}
    (hlengths : parts.map (fun text => (f text).length) =
      parts'.map fun text => (f text).length)
    (hsame : parts.flatMap f = parts'.flatMap f) : parts = parts' := by
  apply List.map_injective_iff.mpr hf
  rw [List.eq_iff_flatten_eq, List.map_map, List.map_map]
  exact ⟨by simpa [List.flatMap_def] using hsame, hlengths⟩

/-- What decides how many characters a text takes up inside of others. -/
def extent (text : List Char) : Nat × Nat :=
  (text.length, text.count '\n')

/-- Parts of known extents can be read back. -/
theorem eq_of_tuple_eq {alternate : Bool} {name : List Char} {parts parts' : List (List Char)}
    (hextents : parts.map extent = parts'.map extent)
    (hsame : tuple alternate name parts = tuple alternate name parts') : parts = parts' := by
  have hparts : parts.length = parts'.length := by simpa using congrArg List.length hextents
  cases alternate with
  | true =>
    apply eq_of_flatMap_eq spreadPart_injective
    · have hgrown := congrArg (List.map fun size : Nat × Nat => size.1 + 6 + 4 * size.2) hextents
      simpa [extent, Function.comp_def, length_spreadPart] using hgrown
    · simpa [tuple] using hsame
  | false =>
    have hjoined : commaSeparated parts = commaSeparated parts' := by
      simpa [tuple, hparts] using hsame
    cases parts with
    | nil => exact (List.length_eq_zero_iff.mp hparts.symm).symm
    | cons text parts =>
      obtain ⟨text', parts', rfl⟩ := List.exists_cons_of_length_eq_add_one hparts.symm
      apply eq_of_flatMap_eq (f := ([',', ' '] ++ ·)) (List.append_right_injective _)
      · have hgrown := congrArg (List.map fun size : Nat × Nat => size.1 + 2) hextents
        simpa [extent, Function.comp_def] using hgrown
      · simpa [commaSeparated_cons] using hjoined

end Layout

namespace Value

open Layout

mutual

/-- The debug form with native tuples in place of the tuples. -/
def nativeDebug (flags : Flags) : Value → List Char
  | a@(int _) | a@(bool _) | a@(char _) | a@(text _) | a@absent => debug flags a
  | present inner =>
    ((Writer.start flags.alternate "Some".toList).part (nativeDebug flags inner)).finish
  | @tuple 0 _ => flags.padText ['(', ')']
  | @tuple (_ + 1) slots =>
    ((nativeSlots flags slots).foldl Writer.part (Writer.start flags.alternate [])).finish

/-- The debug form of every slot, with native tuples in place of the tuples. -/
def nativeSlots (flags : Flags) {n : Nat} : Tuple Value n → List (List Char)
  | .nil => []
  | .cons head tail => nativeDebug flags head :: nativeSlots flags tail

end

mutual

/-- The number of tuples without slots in a value, at any depth. -/
def units : Value → Nat
  | int _ | bool _ | char _ | text _ | absent => 0
  | present inner => units inner
  | @tuple 0 _ => 1
  | @tuple (_ + 1) slots => slotUnits slots

/-- The number of tuples without slots in some slots, at any depth. -/
def slotUnits {n : Nat} : Tuple Value n → Nat
  | .nil => 0
  | .cons head tail => units head + slotUnits tail

end

variable (flags : Flags)

theorem nativeDebug_present (a : Value) : nativeDebug flags (present a) =
    Layout.tuple flags.alternate "Some".toList [nativeDebug flags a] := by
  rw [nativeDebug, ← Writer.finish_foldl_part]
  rfl

theorem nativeDebug_tuple {n : Nat} (s : Tuple Value (n + 1)) : nativeDebug flags (tuple s) =
    Layout.tuple flags.alternate [] (nativeSlots flags s) := by
  cases s with
  | cons a s => rw [nativeDebug, nativeSlots, Writer.finish_foldl_part]

theorem nativeSlots_eq_map {n : Nat} (s : Tuple Value n) :
    nativeSlots flags s = s.toList.map (nativeDebug flags) := by
  induction s with
  | nil => rfl
  | cons a s ih => rw [nativeSlots, ih, Tuple.toList, List.map_cons]

theorem debugSlots_eq_map {n : Nat} (s : Tuple Value n) :
    debugSlots flags s = s.toList.map (debug flags) := by
  induction s with
  | nil => rfl
  | cons a s ih => rw [debugSlots, ih, Tuple.toList, List.map_cons]

mutual

/-- The forms agree when the word for the native tuple without slots is not changed, and
    when there is no such tuple. -/
theorem nativeDebug_eq_debug : (a : Value) →
    flags.padText ['(', ')'] = ['(', ')'] ∨ a.units = 0 → nativeDebug flags a = debug flags a
  | int _, _ | bool _, _ | char _, _ | text _, _ | absent, _ => by simp [nativeDebug]
  | present a, hunits => by
    rw [nativeDebug_present, nativeDebug_eq_debug a (by simpa [units] using hunits), debug]
  | @tuple 0 _, hunits => by simpa [nativeDebug, debug, units] using hunits
  | @tuple (n + 1) s, hunits => by
    rw [nativeDebug_tuple, nativeSlots_eq_debugSlots s (by simpa [units] using hunits), debug]

theorem nativeSlots_eq_debugSlots {n : Nat} : (s : Tuple Value n) →
    flags.padText ['(', ')'] = ['(', ')'] ∨ slotUnits s = 0 →
      nativeSlots flags s = debugSlots flags s
  | .nil, _ => rfl
  | .cons a s, hunits => by
    rw [slotUnits, Nat.add_eq_zero_iff] at hunits
    rw [nativeSlots, debugSlots, nativeDebug_eq_debug a (hunits.imp_right And.left),
      nativeSlots_eq_debugSlots s (hunits.imp_right And.right)]

end

/-! The padded word may hold any character, so that what follows it can look like its end.
Each such word adds the same number of lines, and then of characters, which leaves no room
for texts that agree by chance. -/

mutual

theorem count_nativeDebug : (a : Value) →
    (nativeDebug flags a).count '\n' =
      (debug flags a).count '\n' + a.units * (flags.padText ['(', ')']).count '\n'
  | int _ | bool _ | char _ | text _ | absent => by simp [nativeDebug, units]
  | present a => by
    have hinner := count_nativeDebug a
    rw [nativeDebug_present, debug, units, count_tuple, count_tuple, List.flatten_singleton,
      List.flatten_singleton, hinner, List.length_singleton, List.length_singleton]
    omega
  | @tuple 0 _ => by simp [nativeDebug, debug, units]
  | @tuple (n + 1) s => by
    have hslots := count_nativeSlots s
    have hparts : (nativeSlots flags s).length = (debugSlots flags s).length := by
      simp [nativeSlots_eq_map, debugSlots_eq_map]
    rw [nativeDebug_tuple, debug, units, count_tuple, count_tuple, hparts, hslots]
    omega

theorem count_nativeSlots {n : Nat} : (s : Tuple Value n) →
    (nativeSlots flags s).flatten.count '\n' = (debugSlots flags s).flatten.count '\n' +
      slotUnits s * (flags.padText ['(', ')']).count '\n'
  | .nil => by simp [nativeSlots, debugSlots, slotUnits]
  | .cons a s => by
    have hhead := count_nativeDebug a
    have htail := count_nativeSlots s
    simp only [nativeSlots, debugSlots, slotUnits, List.flatten_cons, List.count_append,
      Nat.add_mul, hhead, htail]
    omega

end

mutual

theorem length_nativeDebug (hlines : (flags.padText ['(', ')']).count '\n' = 0) : (a : Value) →
    (nativeDebug flags a).length + a.units * 2 =
      (debug flags a).length + a.units * (flags.padText ['(', ')']).length
  | int _ | bool _ | char _ | text _ | absent => by simp [nativeDebug, units]
  | present a => by
    have hinner := length_nativeDebug hlines a
    have hgrown := length_tuple_add flags.alternate "Some".toList
      [nativeDebug flags a] [debug flags a] rfl (by simp [count_nativeDebug, hlines])
    simp only [nativeDebug_present, debug, units, List.flatten_singleton] at hgrown ⊢
    omega
  | @tuple 0 _ => by
    rw [nativeDebug, debug, units, Nat.one_mul, Nat.one_mul]
    exact Nat.add_comm _ _
  | @tuple (n + 1) s => by
    have hslots := length_nativeSlots hlines s
    have hgrown := length_tuple_add flags.alternate [] (nativeSlots flags s) (debugSlots flags s)
      (by simp [nativeSlots_eq_map, debugSlots_eq_map]) (by simp [count_nativeSlots, hlines])
    simp only [nativeDebug_tuple, debug, units] at hgrown ⊢
    omega

theorem length_nativeSlots (hlines : (flags.padText ['(', ')']).count '\n' = 0) {n : Nat} :
    (s : Tuple Value n) →
    (nativeSlots flags s).flatten.length + slotUnits s * 2 =
      (debugSlots flags s).flatten.length + slotUnits s * (flags.padText ['(', ')']).length
  | .nil => by simp [nativeSlots, debugSlots, slotUnits]
  | .cons a s => by
    have hhead := length_nativeDebug hlines a
    have htail := length_nativeSlots hlines s
    simp only [nativeSlots, debugSlots, slotUnits, List.flatten_cons, List.length_append,
      Nat.add_mul]
    omega

end

variable {flags}

theorem extent_nativeDebug (hextent : extent (flags.padText ['(', ')']) = (2, 0)) (a : Value) :
    extent (nativeDebug flags a) = extent (debug flags a) := by
  obtain ⟨hlength, hlines⟩ := Prod.mk.inj hextent
  have hsame := length_nativeDebug flags hlines a
  rw [hlength] at hsame
  exact Prod.ext (Nat.add_right_cancel hsame) (by simp [extent, count_nativeDebug, hlines])

mutual

/-- Where nothing is moved, the word for a native tuple without slots can be read off. -/
theorem padText_of_nativeDebug (hextent : extent (flags.padText ['(', ')']) = (2, 0)) :
    (a : Value) → nativeDebug flags a = debug flags a → a.units ≠ 0 →
      flags.padText ['(', ')'] = ['(', ')']
  | int _, _, hunits | bool _, _, hunits | char _, _, hunits | text _, _, hunits
  | absent, _, hunits => absurd rfl hunits
  | present a, hsame, hunits => by
    rw [nativeDebug_present, debug] at hsame
    have hinner := eq_of_tuple_eq (by simp [extent_nativeDebug hextent]) hsame
    exact padText_of_nativeDebug hextent a (by simpa using hinner) hunits
  | @tuple 0 _, hsame, _ => by simpa [nativeDebug, debug] using hsame
  | @tuple (n + 1) s, hsame, hunits => by
    rw [nativeDebug_tuple, debug] at hsame
    refine padText_of_nativeSlots hextent s (eq_of_tuple_eq ?_ hsame) hunits
    simp [nativeSlots_eq_map, debugSlots_eq_map, extent_nativeDebug hextent]

theorem padText_of_nativeSlots (hextent : extent (flags.padText ['(', ')']) = (2, 0)) {n : Nat} :
    (s : Tuple Value n) → nativeSlots flags s = debugSlots flags s → slotUnits s ≠ 0 →
      flags.padText ['(', ')'] = ['(', ')']
  | .nil, _, hunits => absurd rfl hunits
  | .cons a s, hsame, hunits => by
    obtain ⟨hhead, htail⟩ := List.cons.inj hsame
    by_cases hzero : a.units = 0
    · exact padText_of_nativeSlots hextent s htail (by simpa [slotUnits, hzero] using hunits)
    · exact padText_of_nativeDebug hextent a hhead hzero

end

end Value

namespace Tuple

/-- The debug form of a native tuple of the same slots. -/
def nativeDebug (flags : Flags) {n : Nat} (t : Tuple Value n) : List Char :=
  (Value.tuple t).nativeDebug flags

/-- The debug form of a tuple is that of the native tuple exactly when the flags leave the
    word for the native tuple without slots as it is, or there is none at any depth. -/
theorem nativeDebug_eq_debug_iff (flags : Flags) {n : Nat} (t : Tuple Value n) :
    t.nativeDebug flags = t.debug flags ↔
      flags.padText ['(', ')'] = ['(', ')'] ∨ (Value.tuple t).units = 0 := by
  refine ⟨fun hsame => ?_, Value.nativeDebug_eq_debug flags (.tuple t)⟩
  rw [nativeDebug, debug] at hsame
  by_cases hunits : (Value.tuple t).units = 0
  · exact .inr hunits
  · have hlines : (flags.padText ['(', ')']).count '\n' = 0 := by
      have hcount := Value.count_nativeDebug flags (.tuple t)
      rw [hsame] at hcount
      exact (Nat.mul_eq_zero.mp (Nat.add_eq_left.mp hcount.symm)).resolve_left hunits
    have hlength : (flags.padText ['(', ')']).length = 2 := by
      have htotal := Value.length_nativeDebug flags hlines (.tuple t)
      rw [hsame] at htotal
      exact (Nat.eq_of_mul_eq_mul_left (by omega) (Nat.add_left_cancel htotal)).symm
    exact .inl (Value.padText_of_nativeDebug (Prod.ext hlength hlines) (.tuple t) hsame hunits)

/-- Without a width and a precision every tuple has the debug form of the native one, in a row
    and spread out, whatever else the flags say. -/
theorem nativeDebug_eq_debug_of_unsized {flags : Flags} (hwidth : flags.width = none)
    (hprecision : flags.precision = none) {n : Nat} (t : Tuple Value n) :
    t.nativeDebug flags = t.debug flags :=
  Value.nativeDebug_eq_debug flags (.tuple t) (.inl (Flags.padText_eq_self hwidth hprecision _))

/-- Filled up to twelve characters, only the native tuple without slots grows. -/
theorem nativeDebug_ne_debug_nil :
    nativeDebug { alignment := some .left, width := some 12 } .nil ≠
      debug { alignment := some .left, width := some 12 } (.nil : Tuple Value 0) := by
  decide

end Tuple

end Polyad
