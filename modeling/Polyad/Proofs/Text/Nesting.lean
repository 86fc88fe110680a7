import Polyad.Packed.Text
import Polyad.Proofs.Digest
import Polyad.Proofs.Text.NativeForm
import Polyad.Proofs.Text.Reading
/-!
Texts of values inside of values. The text of a tuple or of an optional value is made of
the texts of its parts under the same flags, so the text of a value is met again in the
text of everything around it. In the spread-out form it is then indented, by four spaces
for every layer. Flags have no effect but on what is neither a tuple nor optional.
-/

namespace Polyad

namespace Layout

/-- A text with spaces in front of every line. -/
def indented (spaces : Nat) (text : List Char) : List Char :=
  ['\n'].intercalate ((text.splitOn '\n').map (List.replicate spaces ' ' ++ ·))

/-- A text is one line, or a line and a text behind it. -/
theorem lines_induction {motive : List Char → Prop}
    (line : ∀ text, '\n' ∉ text → motive text)
    (cons : ∀ first rest, '\n' ∉ first → motive rest → motive (first ++ '\n' :: rest))
    (text : List Char) : motive text := by
  by_cases hline : '\n' ∈ text
  · obtain ⟨first, rest, rfl, hfirst⟩ := List.eq_append_cons_of_mem hline
    exact cons first rest hfirst (lines_induction line cons rest)
  · exact line text hline
termination_by text.length

section

variable (spaces : Nat)

theorem indented_line {text : List Char} (hline : '\n' ∉ text) :
    indented spaces text = List.replicate spaces ' ' ++ text := by
  rw [indented, List.splitOn_eq_singleton hline, List.map_singleton, List.intercalate_singleton]

theorem indented_line_append {first : List Char} (hfirst : '\n' ∉ first) (rest : List Char) :
    indented spaces (first ++ '\n' :: rest) =
      List.replicate spaces ' ' ++ first ++ '\n' :: indented spaces rest := by
  have hlines : (first ++ '\n' :: rest).splitOn '\n' = first :: rest.splitOn '\n' := by
    rw [← List.singleton_append (l := rest.splitOn '\n'), ← List.splitOn_eq_singleton hfirst]
    exact List.splitOnP_append_cons first rest (beq_self_eq_true '\n')
  have hrest : (rest.splitOn '\n').map (List.replicate spaces ' ' ++ ·) ≠ [] := by
    simp [List.splitOn]
  rw [indented, hlines, List.map_cons, List.intercalate_cons_of_ne_nil hrest, indented,
    List.append_assoc _ ['\n'], List.singleton_append]

theorem indented_newline (text rest : List Char) :
    indented spaces (text ++ '\n' :: rest) =
      indented spaces text ++ '\n' :: indented spaces rest := by
  induction text using lines_induction with
  | line text hline => rw [indented_line_append spaces hline, indented_line spaces hline]
  | cons first text hfirst ih =>
    rw [List.append_assoc, List.cons_append, indented_line_append spaces hfirst,
      indented_line_append spaces hfirst, ih, List.append_assoc _ _ ('\n' :: indented spaces rest),
      List.cons_append]

/-- What stands behind the last line is not indented. -/
theorem indented_append_of_not_mem (text : List Char) {tail : List Char} (htail : '\n' ∉ tail) :
    indented spaces (text ++ tail) = indented spaces text ++ tail := by
  induction text using lines_induction with
  | line text hline =>
    have hboth : '\n' ∉ text ++ tail := by simp [hline, htail]
    rw [indented_line spaces hline, indented_line spaces hboth, List.append_assoc]
  | cons first text hfirst ih =>
    rw [List.append_assoc, List.cons_append, indented_newline, indented_newline, ih,
      List.append_assoc, List.cons_append]

theorem indented_indented (more : Nat) (text : List Char) :
    indented more (indented spaces text) = indented (more + spaces) text := by
  have hline {line : List Char} (h : '\n' ∉ line) :
      indented more (indented spaces line) = indented (more + spaces) line := by
    have hspaces : '\n' ∉ List.replicate spaces ' ' ++ line := by simp [h]
    rw [indented_line spaces h, indented_line more hspaces, indented_line _ h,
      List.replicate_add, List.append_assoc]
  induction text using lines_induction with
  | line text h => exact hline h
  | cons first text hfirst ih =>
    rw [indented_newline, indented_newline, indented_newline, hline hfirst, ih]

/-- A text on lines of its own, with a comma behind it, is indented as it would be
    alone. -/
theorem indented_part (before text after : List Char) :
    indented spaces (before ++ '\n' :: text ++ ',' :: '\n' :: after) =
      indented spaces before ++ '\n' :: indented spaces text ++
        ',' :: '\n' :: indented spaces after := by
  have hcomma : '\n' ∉ [','] := by decide
  have hlines : before ++ '\n' :: text ++ ',' :: '\n' :: after =
      before ++ '\n' :: (text ++ [',']) ++ '\n' :: after := by
    simp
  rw [hlines, indented_newline, indented_newline, indented_append_of_not_mem _ _ hcomma]
  simp

end

theorem indentFrom_line {text : List Char} (hline : '\n' ∉ text) (rest : List Char) :
    indentFrom false (text ++ rest) = text ++ indentFrom false rest := by
  induction text with
  | nil => rfl
  | cons c text ih =>
    rw [List.mem_cons, not_or] at hline
    have hc : (c == '\n') = false := by simpa using Ne.symm hline.1
    simp [indentFrom, hc, ih hline.2]

/-- A part that is spread out is indented by four spaces, every line of it. -/
theorem spreadPart_eq (part : List Char) : spreadPart part = indented 4 part ++ [',', '\n'] := by
  have hfresh (c : Char) (text : List Char) :
      indentFrom true (c :: text) = List.replicate 4 ' ' ++ indentFrom false (c :: text) := rfl
  have hline {line : List Char} (h : '\n' ∉ line) (c : Char) (rest : List Char) :
      indentFrom true (line ++ c :: rest) =
        indented 4 line ++ indentFrom false (c :: rest) := by
    rw [indented_line 4 h, List.append_assoc, ← indentFrom_line h]
    cases line <;> exact hfresh _ _
  rw [spreadPart]
  induction part using lines_induction with
  | line text h => exact hline h ',' ['\n']
  | cons first rest hfirst ih =>
    rw [List.append_assoc, List.cons_append, hline hfirst, indented_newline, List.append_assoc,
      List.cons_append, ← ih]
    rfl

theorem commaSeparated_eq_intercalate (parts : List (List Char)) :
    commaSeparated parts = [',', ' '].intercalate parts := by
  induction parts with
  | nil => rfl
  | cons part rest ih =>
    cases rest with
    | nil => rw [List.intercalate_singleton, commaSeparated]
    | cons next rest =>
      rw [List.intercalate_cons_cons, ← ih, commaSeparated]
      simp

theorem commaSeparated_append (front back : List (List Char)) (part : List Char) :
    commaSeparated (front ++ part :: back) =
      front.flatMap (· ++ [',', ' ']) ++ part ++ back.flatMap ([',', ' '] ++ ·) := by
  induction front with
  | nil => exact commaSeparated_cons part back
  | cons first front ih =>
    have hrest : front ++ part :: back ≠ [] := by simp
    rw [List.cons_append, commaSeparated_eq_intercalate,
      List.intercalate_cons_of_ne_nil hrest, ← commaSeparated_eq_intercalate, ih]
    simp

/-- Spread-out parts end a line each. -/
theorem exists_flatMap_spreadPart (parts : List (List Char)) :
    ∃ text, '\n' :: parts.flatMap spreadPart = text ++ ['\n'] := by
  obtain rfl | ⟨front, last, rfl⟩ := parts.eq_nil_or_concat
  · exact ⟨[], rfl⟩
  · exact ⟨'\n' :: front.flatMap spreadPart ++ indented 4 last ++ [','],
      by simp [spreadPart_eq]⟩

/-- One part among others. What stands before and behind it does not depend on it. -/
theorem exists_tuple_eq (alternate : Bool) (name : List Char) (front back : List (List Char)) :
    ∃ before after, ∀ part, tuple alternate name (front ++ part :: back) =
      if alternate then before ++ '\n' :: indented 4 part ++ ',' :: '\n' :: after
      else before ++ part ++ after := by
  cases alternate with
  | true =>
    obtain ⟨text, htext⟩ := exists_flatMap_spreadPart front
    refine ⟨name ++ '(' :: text, back.flatMap spreadPart ++ [')'], fun part => ?_⟩
    have hopened : name ++ ['(', '\n'] ++ front.flatMap spreadPart =
        name ++ '(' :: text ++ ['\n'] := by
      simp [← htext]
    simp only [tuple, if_true, List.flatMap_append, List.flatMap_cons, ← List.append_assoc,
      hopened, spreadPart_eq part]
    simp
  | false =>
    refine ⟨name ++ '(' :: front.flatMap (· ++ [',', ' ']),
      back.flatMap ([',', ' '] ++ ·) ++
        (if front.length + (back.length + 1) = 1 ∧ name = [] then [','] else []) ++ [')'],
      fun part => ?_⟩
    simp [tuple, commaSeparated_append]

end Layout

namespace Value

section

variable (flags : Flags)

theorem debug_tuple {n : Nat} (s : Tuple Value n) :
    debug flags (tuple s) =
      if n = 0 then ['(', ')'] else Layout.tuple flags.alternate [] (s.toList.map (debug flags)) := by
  cases s with
  | nil => rw [debug, if_pos rfl]
  | cons a s => rw [debug, debugSlots_eq_map, if_neg (Nat.succ_ne_zero _)]

theorem debug_present (a : Value) :
    debug flags (present a) =
      if flags.alternate then
        "Some".toList ++ ['(', '\n'] ++ Layout.indented 4 (a.debug flags) ++ [',', '\n', ')']
      else "Some".toList ++ ['('] ++ a.debug flags ++ [')'] := by
  have hname : "Some".toList ≠ [] := by decide
  rw [debug, Layout.tuple, List.flatMap_singleton, Layout.spreadPart_eq,
    if_neg fun hlone : _ ∧ _ => hname hlone.2]
  simp only [Layout.commaSeparated, List.append_assoc, List.append_nil, List.cons_append,
    List.nil_append]

theorem displaySlots?_eq_mapM {n : Nat} (s : Tuple Value n) :
    displaySlots? flags s = s.toList.mapM (display? flags) := by
  induction s with
  | nil => rfl
  | cons a s ih =>
    rw [displaySlots?, ih, Tuple.toList_cons, List.mapM_cons]
    cases display? flags a <;> cases s.toList.mapM (display? flags) <;> rfl

mutual

/-- Only optional values have no form for users. -/
theorem isSome_display?_iff : (a : Value) →
    ((display? flags a).isSome = true ↔ ∀ leaf ∈ a.leaves, leaf.kind ≠ .optional)
  | int _ | bool _ | char _ | text _ | absent | present _ => by simp [display?, leaves, kind]
  | tuple s => by
    rw [display?, Option.isSome_map, leaves]
    exact isSome_displaySlots?_iff s

theorem isSome_displaySlots?_iff {n : Nat} : (s : Tuple Value n) →
    ((displaySlots? flags s).isSome = true ↔ ∀ leaf ∈ slotLeaves s, leaf.kind ≠ .optional)
  | .nil => by simp [displaySlots?, slotLeaves]
  | .cons a s => by
    have ha := isSome_display?_iff a
    have hs := isSome_displaySlots?_iff s
    rw [slotLeaves, List.forall_mem_append, ← ha, ← hs, displaySlots?]
    cases display? flags a <;> cases displaySlots? flags s <;> simp

end

end

mutual

/-- What is left of a value when every tuple is replaced by its slots, and every optional
    value by the one inside of it. -/
def scalars : Value → List Value
  | present inner => scalars inner
  | tuple slots => slotScalars slots
  | value => [value]

/-- The scalars of all slots. -/
def slotScalars {n : Nat} : Tuple Value n → List Value
  | .nil => []
  | .cons head tail => scalars head ++ slotScalars tail

end

mutual

theorem of_mem_scalars {b : Value} : (a : Value) → b ∈ a.scalars →
    b.kind ≠ .tuple ∧ ∀ c, b ≠ present c
  | int _, hb | bool _, hb | char _, hb | text _, hb | absent, hb => by
    obtain rfl := List.mem_singleton.mp (by simpa [scalars] using hb)
    simp [kind]
  | present a, hb => of_mem_scalars a (by simpa [scalars] using hb)
  | tuple s, hb => of_mem_slotScalars s (by simpa [scalars] using hb)

theorem of_mem_slotScalars {b : Value} {n : Nat} : (s : Tuple Value n) → b ∈ slotScalars s →
    b.kind ≠ .tuple ∧ ∀ c, b ≠ present c
  | .nil, hb => by simp [slotScalars] at hb
  | .cons a s, hb => by
    rw [slotScalars, List.mem_append] at hb
    obtain hhead | htail := hb
    · exact of_mem_scalars a hhead
    · exact of_mem_slotScalars s htail

end

section

variable {flags flags' : Flags}

mutual

theorem debug_congr (halternate : flags.alternate = flags'.alternate) : (a : Value) →
    (∀ b ∈ a.scalars, b.debug flags = b.debug flags') → a.debug flags = a.debug flags'
  | int _, hsame | bool _, hsame | char _, hsame | text _, hsame | absent, hsame =>
    hsame _ (by simp [scalars])
  | present a, hsame => by
    rw [debug, debug, halternate, debug_congr halternate a (by simpa [scalars] using hsame)]
  | @tuple 0 _, _ => by rw [debug, debug]
  | @tuple (n + 1) s, hsame => by
    rw [debug, debug, halternate, debugSlots_congr halternate s (by simpa [scalars] using hsame)]

theorem debugSlots_congr (halternate : flags.alternate = flags'.alternate) {n : Nat} :
    (s : Tuple Value n) → (∀ b ∈ slotScalars s, b.debug flags = b.debug flags') →
      debugSlots flags s = debugSlots flags' s
  | .nil, _ => by rw [debugSlots, debugSlots]
  | .cons a s, hsame => by
    rw [slotScalars, List.forall_mem_append] at hsame
    rw [debugSlots, debugSlots, debug_congr halternate a hsame.1,
      debugSlots_congr halternate s hsame.2]

end

mutual

theorem display?_congr : (a : Value) →
    (∀ b ∈ a.scalars, b.display? flags = b.display? flags') → a.display? flags = a.display? flags'
  | int _, hsame | bool _, hsame | char _, hsame | text _, hsame | absent, hsame =>
    hsame _ (by simp [scalars])
  | present a, _ => by rw [display?, display?]
  | tuple s, hsame => by
    rw [display?, display?, displaySlots?_congr s (by simpa [scalars] using hsame)]

theorem displaySlots?_congr {n : Nat} : (s : Tuple Value n) →
    (∀ b ∈ slotScalars s, b.display? flags = b.display? flags') →
      displaySlots? flags s = displaySlots? flags' s
  | .nil, _ => by rw [displaySlots?, displaySlots?]
  | .cons a s, hsame => by
    rw [slotScalars, List.forall_mem_append] at hsame
    rw [displaySlots?, displaySlots?, display?_congr a hsame.1, displaySlots?_congr s hsame.2]

end

end

end Value

/-- What can be around a value: an optional value, or a tuple with slots in front of the
    value and behind it. -/
inductive Layer where
  | present
  | slot (front back : List Value)

namespace Layer

/-- A value with one layer around it. -/
def around : Layer → Value → Value
  | present, a => .present a
  | slot front back, a => .ofSlots (front ++ a :: back)

/-- A value with layers around it. The first one is the outermost. -/
def nest (layers : List Layer) (a : Value) : Value :=
  layers.foldr around a

@[simp] theorem nest_nil (a : Value) : nest [] a = a := rfl

theorem nest_cons (layer : Layer) (layers : List Layer) (a : Value) :
    nest (layer :: layers) a = layer.around (nest layers a) := rfl

theorem around_get {n : Nat} (s : Tuple Value n) (k : Fin n) :
    (slot (s.toList.take k) (s.toList.drop (k + 1))).around (s.get k) = .tuple s := by
  have hk : k.val < s.toList.length := by simp
  have hget : s.get k = s.toList[k.val] :=
    (Option.some_inj.mp (by rw [← s.getElem?_toList, List.getElem?_eq_getElem hk]))
  apply Value.tuple_eq_of_toList_eq
  rw [Tuple.toList_ofList, hget, List.getElem_cons_drop, List.take_append_drop]

mutual

/-- Every scalar of a value is reached through layers. -/
theorem exists_nest_of_mem_scalars {b : Value} : (a : Value) → b ∈ a.scalars →
    ∃ layers, nest layers b = a
  | .int _, hb | .bool _, hb | .char _, hb | .text _, hb | .absent, hb =>
    ⟨[], by simpa [Value.scalars] using hb⟩
  | .present a, hb => by
    obtain ⟨layers, rfl⟩ := exists_nest_of_mem_scalars a (by simpa [Value.scalars] using hb)
    exact ⟨present :: layers, rfl⟩
  | .tuple s, hb => by
    obtain ⟨k, layers, hslot⟩ :=
      exists_nest_of_mem_slotScalars s (by simpa [Value.scalars] using hb)
    refine ⟨slot (s.toList.take k) (s.toList.drop (k + 1)) :: layers, ?_⟩
    rw [nest_cons, hslot, around_get]

theorem exists_nest_of_mem_slotScalars {b : Value} {n : Nat} : (s : Tuple Value n) →
    b ∈ Value.slotScalars s → ∃ k layers, nest layers b = s.get k
  | .nil, hb => by simp [Value.slotScalars] at hb
  | .cons a s, hb => by
    rw [Value.slotScalars, List.mem_append] at hb
    obtain hhead | htail := hb
    · exact ⟨0, exists_nest_of_mem_scalars a hhead⟩
    · obtain ⟨k, hk⟩ := exists_nest_of_mem_slotScalars s htail
      exact ⟨k.succ, hk⟩

end

section

variable (flags : Flags)

theorem exists_debug_around (layer : Layer) :
    ∃ before after, ∀ a, (layer.around a).debug flags =
      if flags.alternate then
        before ++ '\n' :: Layout.indented 4 (a.debug flags) ++ ',' :: '\n' :: after
      else before ++ a.debug flags ++ after := by
  cases layer with
  | present =>
    obtain ⟨before, after, hparts⟩ :=
      Layout.exists_tuple_eq flags.alternate "Some".toList [] []
    refine ⟨before, after, fun a => ?_⟩
    rw [around, Value.debug]
    exact hparts (a.debug flags)
  | slot front back =>
    obtain ⟨before, after, hparts⟩ := Layout.exists_tuple_eq flags.alternate []
      (front.map (Value.debug flags)) (back.map (Value.debug flags))
    refine ⟨before, after, fun a => ?_⟩
    rw [around, Value.ofSlots, Value.debug_tuple, if_neg (by simp), Tuple.toList_ofList,
      List.map_append, List.map_cons, hparts]

/-- With every layer the lines of a value move to the right by four spaces. -/
theorem exists_debug_nest (layer : Layer) (layers : List Layer) :
    ∃ before after, ∀ a, (nest (layer :: layers) a).debug flags =
      if flags.alternate then
        before ++ '\n' :: Layout.indented (4 * (layers.length + 1)) (a.debug flags) ++
          ',' :: '\n' :: after
      else before ++ a.debug flags ++ after := by
  induction layers generalizing layer with
  | nil => exact exists_debug_around flags layer
  | cons next layers ih =>
    obtain ⟨before, after, hinner⟩ := ih next
    obtain ⟨outerBefore, outerAfter, houter⟩ := exists_debug_around flags layer
    cases halternate : flags.alternate with
    | false =>
      simp only [halternate, Bool.false_eq_true, if_false] at hinner houter ⊢
      refine ⟨outerBefore ++ before, after ++ outerAfter, fun a => ?_⟩
      simp [nest_cons layer, houter, hinner]
    | true =>
      simp only [halternate, if_true] at hinner houter ⊢
      refine ⟨outerBefore ++ '\n' :: Layout.indented 4 before,
        Layout.indented 4 after ++ ',' :: '\n' :: outerAfter, fun a => ?_⟩
      rw [nest_cons layer, houter, hinner, Layout.indented_part,
        Layout.indented_indented]
      simp [Nat.mul_add, Nat.add_comm]

theorem exists_display?_around (layer : Layer) :
    (∀ a, (layer.around a).display? flags = none) ∨
      ∃ before after, ∀ a, (layer.around a).display? flags =
        (a.display? flags).map fun text => before ++ text ++ after := by
  cases layer with
  | present => exact .inl fun a => by rw [around, Value.display?]
  | slot front back =>
    have hslots (a : Value) : ((slot front back).around a).display? flags =
        (do
          let before ← front.mapM (Value.display? flags)
          let text ← a.display? flags
          let after ← back.mapM (Value.display? flags)
          return ['('] ++ Layout.commaSeparated (before ++ text :: after) ++ [')']) := by
      rw [around, Value.ofSlots, Value.display?, Value.displaySlots?_eq_mapM,
        Tuple.toList_ofList, List.mapM_append, List.mapM_cons]
      cases front.mapM (Value.display? flags) <;> cases a.display? flags <;>
        cases back.mapM (Value.display? flags) <;> rfl
    cases hfront : front.mapM (Value.display? flags) with
    | none => exact .inl fun a => by simp [hslots, hfront]
    | some fronts =>
      cases hback : back.mapM (Value.display? flags) with
      | none => exact .inl fun a => by simp [hslots, hfront, hback]
      | some backs =>
        refine .inr ⟨'(' :: fronts.flatMap (· ++ [',', ' ']),
          backs.flatMap ([',', ' '] ++ ·) ++ [')'], fun a => ?_⟩
        rw [hslots, hfront, hback]
        cases a.display? flags <;> simp [Layout.commaSeparated_append]

theorem exists_display?_nest (layers : List Layer) :
    (∀ a, (nest layers a).display? flags = none) ∨
      ∃ before after, ∀ a, (nest layers a).display? flags =
        (a.display? flags).map fun text => before ++ text ++ after := by
  induction layers with
  | nil => exact .inr ⟨[], [], fun a => by simp⟩
  | cons layer layers ih =>
    obtain hnone | ⟨outerBefore, outerAfter, houter⟩ := exists_display?_around flags layer
    · exact .inl fun a => hnone (nest layers a)
    · obtain hnone | ⟨before, after, hinner⟩ := ih
      · exact .inl fun a => by rw [nest_cons, houter, hnone, Option.map_none]
      · refine .inr ⟨outerBefore ++ before, after ++ outerAfter, fun a => ?_⟩
        rw [nest_cons, houter, hinner, Option.map_map]
        simp [Function.comp_def]

end

end Layer

namespace Tuple

section

variable (flags : Flags) {n : Nat} (s : Tuple Value n)

theorem display?_eq :
    s.display? flags =
      (s.toList.mapM (Value.display? flags)).map fun texts =>
        '(' :: [',', ' '].intercalate texts ++ [')'] := by
  rw [display?, Value.display?, Value.displaySlots?_eq_mapM]
  simp only [Layout.commaSeparated_eq_intercalate, List.cons_append, List.nil_append]

theorem debug_eq :
    s.debug flags =
      if n = 0 then ['(', ')']
      else if flags.alternate then
        ['(', '\n'] ++
          s.toList.flatMap (fun a => Layout.indented 4 (a.debug flags) ++ [',', '\n']) ++ [')']
      else
        '(' :: [',', ' '].intercalate (s.toList.map (Value.debug flags)) ++
          if n = 1 then [',', ')'] else [')'] := by
  rw [debug, Value.debug_tuple, Layout.tuple, Layout.commaSeparated_eq_intercalate,
    List.flatMap_map]
  simp only [Layout.spreadPart_eq, List.length_map, length_toList]
  by_cases hlone : n = 1 <;> simp [hlone]

end

/-- The form of a tuple for users, if no slot is optional at any depth, and its debug form in
    a row are the texts of its slots, with a comma behind a lone slot in the debug form. In
    the spread-out form every slot stands on lines of its own, which are indented, and so is
    a value inside of an optional one. So the text of a value is part of the text of every
    value around it, and its lines move to the right by four spaces with every layer. Flags
    have no effect but on scalars, each of which is in some layers, and a packed tuple has
    the form for users of the tuple inside. -/
theorem texts_compose (flags : Flags) :
    (∀ {n : Nat} (s : Tuple Value n),
      (s.display? flags =
          (s.toList.mapM (Value.display? flags)).map fun texts =>
            '(' :: [',', ' '].intercalate texts ++ [')']) ∧
        ((s.display? flags).isSome = true ↔
          ∀ leaf ∈ Value.slotLeaves s, leaf.kind ≠ .optional) ∧
        s.debug flags =
          if n = 0 then ['(', ')']
          else if flags.alternate then
            ['(', '\n'] ++
              s.toList.flatMap (fun a => Layout.indented 4 (a.debug flags) ++ [',', '\n']) ++ [')']
          else
            '(' :: [',', ' '].intercalate (s.toList.map (Value.debug flags)) ++
              if n = 1 then [',', ')'] else [')']) ∧
    (∀ a : Value, (Value.present a).debug flags =
      if flags.alternate then
        "Some".toList ++ ['(', '\n'] ++ Layout.indented 4 (a.debug flags) ++ [',', '\n', ')']
      else "Some".toList ++ ['('] ++ a.debug flags ++ [')']) ∧
    ((nil : Tuple Value 0).display? flags = some ['(', ')'] ∧
      (nil : Tuple Value 0).debug flags = ['(', ')']) ∧
    (∀ {n : Nat} (s : Tuple Value n) (k : Fin n),
      (Layer.slot (s.toList.take k) (s.toList.drop (k + 1))).around (s.get k) = .tuple s) ∧
    (∀ (layer : Layer) (layers : List Layer),
      (∃ before after, ∀ a, (Layer.nest (layer :: layers) a).debug flags =
        if flags.alternate then
          before ++ '\n' :: Layout.indented (4 * (layers.length + 1)) (a.debug flags) ++
            ',' :: '\n' :: after
        else before ++ a.debug flags ++ after) ∧
      ((∀ a, (Layer.nest (layer :: layers) a).display? flags = none) ∨
        ∃ before after, ∀ a, (Layer.nest (layer :: layers) a).display? flags =
          (a.display? flags).map fun text => before ++ text ++ after)) ∧
    (∀ a : Value, ∀ b ∈ a.scalars,
      (b.kind ≠ .tuple ∧ ∀ c, b ≠ .present c) ∧ ∃ layers, Layer.nest layers b = a) ∧
    (∀ (a : Value) (other : Flags),
      (flags.alternate = other.alternate →
        (∀ b ∈ a.scalars, b.debug flags = b.debug other) → a.debug flags = a.debug other) ∧
      ((∀ b ∈ a.scalars, b.display? flags = b.display? other) →
        a.display? flags = a.display? other)) ∧
    ∀ (t : Packed Value) (wrapped : Bool),
      t.format? ⟨flags, false⟩ wrapped = t.slots.display? flags := by
  refine ⟨?slots, Value.debug_present flags, ⟨by rfl, by rfl⟩, Layer.around_get, ?layers, ?scalars,
    ?flags, ?packed⟩
  case slots =>
    intro n s
    refine ⟨s.display?_eq flags, ?_, s.debug_eq flags⟩
    rw [display?, Value.display?, Option.isSome_map]
    exact Value.isSome_displaySlots?_iff flags s
  case layers =>
    intro layer layers
    exact ⟨Layer.exists_debug_nest flags layer layers,
      Layer.exists_display?_nest flags (layer :: layers)⟩
  case scalars =>
    intro a b hb
    exact ⟨Value.of_mem_scalars a hb, Layer.exists_nest_of_mem_scalars a hb⟩
  case flags =>
    intro a other
    exact ⟨fun halternate => Value.debug_congr halternate a, Value.display?_congr a⟩
  case packed =>
    intro t wrapped
    cases wrapped <;> rfl

example : (Value.ofSlots [.ofSlots [.bool true], .absent]).debug { alternate := true } =
    "(\n    (\n        true,\n    ),\n    None,\n)".toList := by
  decide

/-- A text that fills four characters is not changed when so many are asked for, so neither
    is a pair of it and the tuple without slots, which is shorter. -/
theorem texts_compose_text_and_nil :
    let a : Value := .ofSlots [.text "abcd", .ofSlots []]
    let flags : Flags := { width := some 4 }
    (.text "abcd" ∈ a.scalars ∧ ∃ layers, Layer.nest layers (.text "abcd") = a) ∧
    (flags.alternate = ({} : Flags).alternate ∧
      (∀ b ∈ a.scalars, b.debug flags = b.debug {}) ∧ a.debug flags = a.debug {}) ∧
    (∀ b ∈ a.scalars, b.display? flags = b.display? {}) ∧ a.display? flags = a.display? {} := by
  intro a flags
  have hscalar : .text "abcd" ∈ a.scalars := by decide
  have hdebug : ∀ b ∈ a.scalars, b.debug flags = b.debug {} := by decide
  have hdisplay : ∀ b ∈ a.scalars, b.display? flags = b.display? {} := by decide
  obtain ⟨hscalars, hflags, -⟩ := (texts_compose flags).2.2.2.2.2
  exact ⟨⟨hscalar, (hscalars a (.text "abcd") hscalar).2⟩,
    ⟨rfl, hdebug, (hflags a {}).1 rfl hdebug⟩, hdisplay, (hflags a {}).2 hdisplay⟩

end Tuple

end Polyad
