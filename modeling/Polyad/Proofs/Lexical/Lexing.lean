import Polyad.Proofs.Lexical.Literals
/-!
The lexemes of a text, one after the other. Blanks in front of a lexeme can be dropped,
and what can be dropped can follow an integer.
-/

namespace Polyad

namespace Blank

/-- What is left of a text when some of the blanks at its front are dropped. -/
inductive Skips : List Char → List Char → Prop
  | refl (cs : List Char) : Skips cs cs
  | step {cs mid rest : List Char} : drop? cs = some mid → Skips mid rest → Skips cs rest

variable {cs rest : List Char}

theorem length_of_closeComment {depth : Nat} (hclose : closeComment depth cs = some rest) :
    rest.length < cs.length := by
  fun_induction closeComment depth cs with
  | case1 depth tail ih =>
    have hshort := ih hclose
    simp only [List.length_cons]
    omega
  | case2 tail =>
    cases hclose
    simp only [List.length_cons]
    omega
  | case3 depth tail ih =>
    have hshort := ih hclose
    simp only [List.length_cons]
    omega
  | case4 depth c tail _ _ _ ih =>
    have hshort := ih hclose
    simp only [List.length_cons]
    omega
  | case5 => cases hclose

theorem length_dropLine (cs : List Char) : (dropLine cs).length ≤ cs.length :=
  (List.dropWhile_suffix _).length_le

theorem length_of_drop? (hdrop : drop? cs = some rest) : rest.length < cs.length := by
  unfold drop? at hdrop
  split at hdrop
  case h_2 tail =>
    cases hdrop
    have hline := length_dropLine tail
    simp only [List.length_cons]
    omega
  case h_4 tail _ _ _ =>
    cases hdrop
    have hline := length_dropLine tail
    simp only [List.length_cons]
    omega
  case h_5 tail =>
    cases hdrop
    simp only [List.length_cons]
    omega
  case h_7 tail =>
    have hclose := length_of_closeComment hdrop
    simp only [List.length_cons] at hclose ⊢
    omega
  case h_9 tail _ _ _ _ =>
    have hclose := length_of_closeComment hdrop
    simp only [List.length_cons]
    omega
  case h_10 c tail _ _ _ _ _ _ _ _ _ =>
    rw [Option.ite_none_right_eq_some] at hdrop
    cases hdrop.2
    simp only [List.length_cons]
    omega
  all_goals cases hdrop

theorem drop?_eq_none (hcs : ∀ c ∈ cs.head?, c ≠ '/' ∧ isSpace c = false) : drop? cs = none := by
  unfold drop?
  split
  case h_10 c tail _ _ _ _ _ _ _ _ _ => exact if_neg (ne_true_of_eq_false (hcs c rfl).2)
  case h_11 => rfl
  all_goals exact absurd rfl (hcs '/' rfl).1

theorem drop?_space {c : Char} (hc : isSpace c = true) (rest : List Char) :
    drop? (c :: rest) = some rest := by
  have hslash : c ≠ '/' := by
    rintro rfl
    cases hc
  unfold drop?
  split
  case h_10 heq =>
    obtain ⟨rfl, rfl⟩ := List.cons.inj heq
    exact if_pos hc
  case h_11 heq => cases heq
  all_goals
    rename_i heq
    exact absurd (List.cons.inj heq).1 hslash

theorem Skips.trans {mid : List Char} (hfirst : Skips cs mid) (hthen : Skips mid rest) :
    Skips cs rest := by
  induction hfirst with
  | refl => exact hthen
  | step hdrop _ ih => exact .step hdrop (ih hthen)

/-- What is left when there are no more blanks. -/
theorem Skips.eq_of_drop?_eq_none {other : List Char} (hskips : Skips cs rest)
    (hrest : drop? rest = none) (hother : Skips cs other) (hdrop : drop? other = none) :
    rest = other := by
  induction hskips with
  | refl =>
    cases hother with
    | refl => rfl
    | step hmid _ =>
      rw [hrest] at hmid
      cases hmid
  | step hmid _ ih =>
    cases hother with
    | refl =>
      rw [hdrop] at hmid
      cases hmid
    | step hmid' hskips' =>
      rw [hmid] at hmid'
      cases hmid'
      exact ih hrest hskips'

theorem skips_spaces {blanks : List Char} (hblanks : ∀ c ∈ blanks, isSpace c = true)
    (rest : List Char) : Skips (blanks ++ rest) rest := by
  induction blanks with
  | nil => exact .refl rest
  | cons c blanks ih =>
    obtain ⟨hspace, hblanks⟩ := List.forall_mem_cons.mp hblanks
    exact .step (drop?_space hspace _) (ih hblanks)

/-- Blanks can be dropped until there are none. -/
theorem exists_skips (cs : List Char) : ∃ front, Skips cs front ∧ drop? front = none := by
  induction hlength : cs.length using Nat.strongRecOn generalizing cs with
  | _ n ih =>
    subst hlength
    cases hdrop : drop? cs with
    | none => exact ⟨cs, .refl cs, hdrop⟩
    | some mid =>
      obtain ⟨front, hskips, hfront⟩ := ih mid.length (length_of_drop? hdrop) mid rfl
      exact ⟨front, .step hdrop hskips, hfront⟩

end Blank

namespace Number

/-- The code points of white space. -/
def spacePoints : List Nat :=
  List.range' 9 5 ++ [0x20, 0x85, 0xa0, 0x1680] ++ List.range' 0x2000 11 ++
    [0x200e, 0x200f, 0x2028, 0x2029, 0x202f, 0x205f, 0x3000]

theorem isContinue_of_isSpace {c : Char} (hc : Blank.isSpace c = true) :
    Alphabet.isContinue c = false := by
  have hpoints : spacePoints.all (fun n => !(CodePoint.within n Alphabet.startRanges ||
      CodePoint.within n Alphabet.continueRanges)) = true := by decide +kernel
  have hmem : c.toNat ∈ spacePoints := by
    simp only [Blank.isSpace, Bool.or_eq_true, Bool.and_eq_true, decide_eq_true_eq,
      beq_iff_eq] at hc
    simp only [spacePoints, List.mem_append, List.mem_range'_1, List.mem_cons, List.not_mem_nil]
    omega
  rw [List.all_eq_true] at hpoints
  simpa [Alphabet.isContinue] using hpoints c.toNat hmem

theorem apart_nil : Apart [] := ⟨rfl, by simp⟩

theorem apart_cons {c : Char} (hcontinue : Alphabet.isContinue c = false)
    (hsign : c ∉ ['.', '+', '-']) (rest : List Char) : Apart (c :: rest) := by
  refine ⟨hcontinue, ?_⟩
  rintro _ ⟨⟩
  simpa using hsign

/-- What begins with a blank can follow an integer. -/
theorem apart_of_drop? {cs rest : List Char} (hdrop : Blank.drop? cs = some rest) : Apart cs := by
  cases cs with
  | nil => cases hdrop
  | cons c tail =>
    by_cases hslash : c = '/'
    · subst hslash
      exact apart_cons (by decide) (by decide) tail
    · have hspace : Blank.isSpace c = true := by
        by_contra hspace
        rw [Blank.drop?_eq_none] at hdrop
        · cases hdrop
        · rintro _ ⟨⟩
          exact ⟨hslash, by simpa using hspace⟩
      refine apart_cons (isContinue_of_isSpace hspace) ?_ tail
      intro hmem
      simp only [List.mem_cons, List.not_mem_nil, or_false] at hmem
      obtain rfl | rfl | rfl := hmem <;> cases hspace

theorem apart_of_skips {cs rest : List Char} (hskips : Blank.Skips cs rest) (hrest : Apart rest) :
    Apart cs := by
  cases hskips with
  | refl => exact hrest
  | step hdrop => exact apart_of_drop? hdrop

end Number

namespace Lexeme

open Blank (Skips)

/-- The lexemes of a text whose brackets need not be balanced, without their spelling. -/
def sequence? (cs : List Char) : Option (List Lexeme) :=
  (readAll? cs).map (List.map Spelling.lexeme)

variable {cs front rest : List Char} {lexeme : Lexeme} {lexemes : List Lexeme}

@[simp] theorem sequence?_nil : sequence? [] = some [] := by
  rw [sequence?, readAll?, if_pos rfl]
  rfl

theorem sequence?_of_drop? (hdrop : Blank.drop? cs = some rest) :
    sequence? cs = sequence? rest := by
  have hsome : cs ≠ [] := by
    rintro rfl
    cases hdrop
  rw [sequence?, readAll?, if_neg hsome]
  simp only [hdrop, dif_pos (Blank.length_of_drop? hdrop), sequence?]

theorem sequence?_of_read? (hdrop : Blank.drop? cs = none)
    (hread : read? cs = some (lexeme, rest)) (hshort : rest.length < cs.length) :
    sequence? cs = (sequence? rest).map (lexeme :: ·) := by
  have hsome : cs ≠ [] := by
    rintro rfl
    cases hshort
  rw [sequence?, readAll?, if_neg hsome]
  simp only [hdrop, hread, dif_pos hshort, sequence?, Option.map_map]
  rfl

theorem sequence?_of_skips (hskips : Skips cs rest) : sequence? cs = sequence? rest := by
  induction hskips with
  | refl => rfl
  | step hdrop _ ih => rw [sequence?_of_drop? hdrop, ih]

/-- A text with lexemes that no blank begins is empty or begins with the first of them. -/
theorem exists_read?_of_sequence? (hdrop : Blank.drop? cs = none)
    (hsequence : sequence? cs = some lexemes) :
    (cs = [] ∧ lexemes = []) ∨
      ∃ lexeme rest tail, lexemes = lexeme :: tail ∧ read? cs = some (lexeme, rest) ∧
        rest.length < cs.length ∧ sequence? rest = some tail := by
  by_cases hempty : cs = []
  · subst hempty
    rw [sequence?_nil] at hsequence
    cases hsequence
    exact .inl ⟨rfl, rfl⟩
  · right
    cases hread : read? cs with
    | none =>
      rw [sequence?, readAll?, if_neg hempty] at hsequence
      simp [hdrop, hread] at hsequence
    | some found =>
      obtain ⟨lexeme, rest⟩ := found
      by_cases hshort : rest.length < cs.length
      · rw [sequence?_of_read? hdrop hread hshort, Option.map_eq_some_iff] at hsequence
        obtain ⟨tail, htail, rfl⟩ := hsequence
        exact ⟨lexeme, rest, tail, rfl, rfl, hshort, htail⟩
      · rw [sequence?, readAll?, if_neg hempty] at hsequence
        simp [hdrop, hread, hshort] at hsequence

theorem sequence?_eq_nil_iff : sequence? cs = some [] ↔ Skips cs [] := by
  constructor
  · intro hsequence
    obtain ⟨front, hskips, hfront⟩ := Blank.exists_skips cs
    rw [sequence?_of_skips hskips] at hsequence
    obtain ⟨rfl, -⟩ | ⟨_, _, _, hnil, -⟩ := exists_read?_of_sequence? hfront hsequence
    · exact hskips
    · cases hnil
  · intro hskips
    rw [sequence?_of_skips hskips, sequence?_nil]

theorem sequence?_eq_cons_iff :
    sequence? cs = some (lexeme :: lexemes) ↔
      ∃ front rest, Skips cs front ∧ Blank.drop? front = none ∧
        read? front = some (lexeme, rest) ∧ rest.length < front.length ∧
        sequence? rest = some lexemes := by
  constructor
  · intro hsequence
    obtain ⟨front, hskips, hfront⟩ := Blank.exists_skips cs
    rw [sequence?_of_skips hskips] at hsequence
    obtain ⟨-, hnil⟩ | ⟨_, rest, _, hcons, hread, hshort, htail⟩ :=
      exists_read?_of_sequence? hfront hsequence
    · cases hnil
    · cases hcons
      exact ⟨front, rest, hskips, hfront, hread, hshort, htail⟩
  · rintro ⟨front, rest, hskips, hfront, hread, hshort, htail⟩
    rw [sequence?_of_skips hskips, sequence?_of_read? hfront hread hshort, htail]
    rfl

end Lexeme

end Polyad
