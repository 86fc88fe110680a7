import Polyad.Proofs.Packed.Slots
import Polyad.Proofs.Sampling.Descent
/-!
Tuples as test data go by their slots. The candidates for a smaller tuple are those
with the first slot made smaller, then those with the second, and so on, and a drawn
tuple takes one value for each slot. So the parts of a joined tuple are made smaller
one after the other, and they are drawn one after the other.
-/

namespace Polyad

universe u v

namespace Tuple

variable {α : Type u} {n m : Nat}

section

variable {smaller : α → List α}

theorem shrink_append (s : Tuple α n) (t : Tuple α m) :
    (s.append t).shrink smaller =
      (s.shrink smaller).map (fun u => u.append t) ++
        (t.shrink smaller).map fun u => s.append u := by
  induction s with
  | nil => simp [append]
  | cons head tail ih => simp [append, ih, Function.comp_def]

theorem length_shrink (t : Tuple α n) :
    (t.shrink smaller).length = (t.toList.map fun a => (smaller a).length).sum := by
  induction t with
  | nil => rfl
  | cons head tail ih => simp [ih]

variable {native : Nested α n → List (Nested α n)}

theorem mem_shrinkBy_iff (hnative : Nested.ShrinksInTurn smaller native) {t u : Tuple α n} :
    u ∈ t.shrinkBy native ↔ ∃ k, ∃ value ∈ smaller (t.get k), t.set k value = u := by
  simp [shrinkBy_eq_flatMap hnative]

/-- A candidate differs in the slot that was made smaller and in no other. -/
theorem existsUnique_get_ne (hnative : Nested.ShrinksInTurn smaller native) {t u : Tuple α n}
    (hslots : ∀ a ∈ t.toList, a ∉ smaller a) (hu : u ∈ t.shrinkBy native) :
    ∃! k, u.get k ≠ t.get k := by
  obtain ⟨k, value, hvalue, rfl⟩ := (mem_shrinkBy_iff hnative).mp hu
  refine ⟨k, ?_, fun i hi => ?_⟩
  · have hslot := hslots (t.get k) (List.mem_of_getElem? (t.getElem?_toList k))
    simp only [get_set_self]
    rintro rfl
    exact hslot hvalue
  · by_contra hne
    exact hi (t.get_set_of_ne hne value)

end

section

variable {σ : Type v} (next : σ → α × σ)

theorem draw_append (n m : Nat) (source : σ) :
    draw next (m + n) source =
      let first := draw next n source
      let later := draw next m first.2
      (first.1.append later.1, later.2) := by
  induction n generalizing source with
  | zero => rfl
  | succ n ih =>
    refine (draw_succ next (m + n) source).trans ?_
    rw [ih]
    rfl

/-- One value is taken for each slot, in the order of the slots. -/
theorem draw_eq (n : Nat) (source : σ) :
    (draw next n source).1.toList =
        (List.range n).map (fun taken => (next (sourceAfter next taken source)).1) ∧
      (draw next n source).2 = sourceAfter next n source := by
  induction n generalizing source with
  | zero => exact ⟨rfl, rfl⟩
  | succ n ih =>
    obtain ⟨hslots, hsource⟩ := ih (next source).2
    rw [draw_succ, toList_cons, hslots, hsource, List.range_succ_eq_map, List.map_cons,
      List.map_map]
    exact ⟨rfl, rfl⟩

end

end Tuple

namespace Value

theorem not_mem_smaller (a : Value) : a ∉ a.smaller :=
  wellFounded_smaller.irrefl.irrefl a

theorem sourceAfter_takeNext (taken : Nat) (feed : List Value) :
    sourceAfter takeNext taken feed = feed.drop taken := by
  induction taken generalizing feed with
  | zero => rfl
  | succ taken ih =>
    have hnext : (takeNext feed).2 = feed.drop 1 := by cases feed <;> rfl
    rw [sourceAfter, Function.iterate_succ_apply, hnext]
    exact (ih (feed.drop 1)).trans (by rw [List.drop_drop, Nat.add_comm])

/-- What is drawn from a list is its beginning. Where the list is too short, absent
    values fill the slots. -/
theorem draw_takeNext (n : Nat) (feed : List Value) :
    (Tuple.draw takeNext n feed).1.toList =
        (List.range n).map (fun i => feed[i]?.getD absent) ∧
      (Tuple.draw takeNext n feed).2 = feed.drop n := by
  have hfirst (feed : List Value) : (takeNext feed).1 = feed.head?.getD absent := by
    cases feed <;> rfl
  obtain ⟨hslots, hsource⟩ := Tuple.draw_eq takeNext n feed
  simp only [sourceAfter_takeNext, hfirst, List.head?_drop] at hslots hsource
  exact ⟨hslots, hsource⟩

end Value

theorem Packed.slots_of_join? {α : Type u} {s t joined : Packed α}
    (hjoined : s.join? t = some joined) :
    ∃ hfits, joined = ⟨t.arity + s.arity, s.slots.append t.slots, hfits⟩ := by
  unfold join? at hjoined
  split at hjoined
  case isTrue hfits => exact ⟨hfits, (Option.some.inj hjoined).symm⟩
  case isFalse => cases hjoined

/-- A session that is asked for the candidates of a joined tuple finds those of its
    parts. -/
theorem Look.perform_shrink_of_join? {s t joined : Packed Value}
    (hjoined : s.join? t = some joined) (limit : Nat) :
    (shrink limit).perform joined =
      pure (.ok (.tuples
        (((s.slots.shrink Value.smaller).map (fun u => u.toList ++ t.toList) ++
          (t.slots.shrink Value.smaller).map fun u => s.toList ++ u.toList).take limit))) := by
  obtain ⟨hfits, rfl⟩ := Packed.slots_of_join? hjoined
  simp only [perform, Tuple.shrink_append, List.map_take, List.map_append, List.map_map,
    Function.comp_def, Tuple.toList_append]
  rfl

namespace Tuple

/-- Tuples are made smaller and drawn by way of nested pairs, which are made smaller in one
    place after the other and drawn from the first place to the last. Then the candidates
    for a joined tuple are those for its first part, with the second one kept, and then
    those for the second part. So they are listed slot by slot, as many as the slots have,
    and each of them differs in exactly one slot where no slot is its own candidate, which
    values never are. Drawing a tuple takes as many values from a source as it has slots,
    and a joined tuple is drawn as its first part and then, from what is left, as its second
    one. The nested pairs of a session are made smaller and drawn in this way. -/
theorem sampling_goes_by_slots :
    (∀ {α : Type u} {smaller : α → List α} {n m : Nat}
        {native : (arity : Nat) → Nested α arity → List (Nested α arity)},
      Nested.ShrinksInTurn smaller (native n) → Nested.ShrinksInTurn smaller (native m) →
      Nested.ShrinksInTurn smaller (native (m + n)) → ∀ (s : Tuple α n) (t : Tuple α m),
        (s.append t).shrinkBy (native (m + n)) =
          (s.shrinkBy (native n)).map (fun u => u.append t) ++
            (t.shrinkBy (native m)).map fun u => s.append u) ∧
    (∀ {α : Type u} {smaller : α → List α} {n : Nat} {native : Nested α n → List (Nested α n)},
      Nested.ShrinksInTurn smaller native → ∀ t : Tuple α n,
        t.shrinkBy native =
          (List.finRange n).flatMap
            (fun k => (smaller (t.get k)).map fun value => t.set k value) ∧
        (t.shrinkBy native).length = (t.toList.map fun a => (smaller a).length).sum ∧
        ((∀ a ∈ t.toList, a ∉ smaller a) →
          ∀ u ∈ t.shrinkBy native, ∃! k, u.get k ≠ t.get k)) ∧
    (∀ a : Value, a ∉ a.smaller) ∧
    (∀ n, Nested.ShrinksInTurn Value.smaller (Nested.shrink Value.smaller (n := n))) ∧
    (∀ (s t joined : Packed Value), s.join? t = some joined → ∀ limit,
      (Look.shrink limit).perform joined =
        pure (.ok (.tuples
          (((s.slots.shrink Value.smaller).map (fun u => u.toList ++ t.toList) ++
            (t.slots.shrink Value.smaller).map fun u => s.toList ++ u.toList).take limit)))) ∧
    (∀ {α : Type u} {σ : Type v} {next : σ → α × σ} {n m : Nat}
        {native : (arity : Nat) → σ → Nested α arity × σ},
      Nested.DrawsInOrder next (native n) → Nested.DrawsInOrder next (native m) →
      Nested.DrawsInOrder next (native (m + n)) → ∀ source : σ,
        let first := drawBy (native n) source
        let later := drawBy (native m) first.2
        first.1.toList =
          (List.range n).map (fun taken => (next (sourceAfter next taken source)).1) ∧
        first.2 = sourceAfter next n source ∧
        drawBy (native (m + n)) source = (first.1.append later.1, later.2)) ∧
    (∀ n, Nested.DrawsInOrder Value.takeNext (Nested.draw Value.takeNext n)) ∧
    ∀ (n : Nat) (feed : List Value),
      (draw Value.takeNext n feed).1.toList =
          (List.range n).map (fun i => feed[i]?.getD .absent) ∧
        (draw Value.takeNext n feed).2 = feed.drop n := by
  refine ⟨?joined, ?slots, Value.not_mem_smaller, Nested.shrinksInTurn_shrink Value.smaller,
    ?session, ?drawn, Nested.drawsInOrder_draw Value.takeNext, Value.draw_takeNext⟩
  case joined =>
    intro α smaller n m native hleft hright hboth s t
    rw [shrinkBy_eq_shrink hboth, shrinkBy_eq_shrink hleft, shrinkBy_eq_shrink hright,
      shrink_append]
  case slots =>
    intro α smaller n native hnative t
    refine ⟨t.shrinkBy_eq_flatMap hnative, ?_, fun hslots u hu => ?_⟩
    · rw [shrinkBy_eq_shrink hnative, length_shrink]
    · exact existsUnique_get_ne hnative hslots hu
  case session => exact fun s t joined => Look.perform_shrink_of_join?
  case drawn =>
    intro α σ next n m native hleft hright hboth source
    rw [drawBy_eq_draw hleft, drawBy_eq_draw hright, drawBy_eq_draw hboth]
    obtain ⟨hslots, hsource⟩ := draw_eq next n source
    exact ⟨hslots, hsource, draw_append next n m source⟩

/-- Of a pair with `true` in front only the first slot differs from the candidate with
    `false` there. The pair is joined from two tuples of one slot, of which the second one,
    a text, has no candidates, and it is drawn as these two tuples are. -/
theorem sampling_goes_by_slots_true_and_text :
    let s : Packed Value := .single (.bool true)
    let t : Packed Value := .single (.text "ab")
    let pair : Tuple Value 2 := cons (.bool true) (cons (.text "ab") nil)
    let candidate : Tuple Value 2 := cons (.bool false) (cons (.text "ab") nil)
    let native (arity : Nat) : Nested Value arity → List (Nested Value arity) :=
      Nested.shrink Value.smaller
    let feed : List Value := [.bool true, .text "ab", .int 7]
    (∀ n, Nested.ShrinksInTurn Value.smaller (native n)) ∧
    (s.slots.append t.slots).shrinkBy (native 2) = [candidate] ∧
    ((∀ a ∈ pair.toList, a ∉ a.smaller) ∧ candidate ∈ pair.shrinkBy (native 2) ∧
      ∃! k, candidate.get k ≠ pair.get k) ∧
    s.join? t = some ⟨2, pair, by decide⟩ ∧
      (Look.shrink 5).perform ⟨2, pair, by decide⟩ =
        pure (.ok (.tuples [[.bool false, .text "ab"]])) ∧
    (∀ n, Nested.DrawsInOrder Value.takeNext (Nested.draw Value.takeNext n)) ∧
      drawBy (Nested.draw Value.takeNext 2) feed = (pair, [.int 7]) := by
  intro s t pair candidate native feed
  have hshrinks (n : Nat) : Nested.ShrinksInTurn Value.smaller (native n) :=
    Nested.shrinksInTurn_shrink Value.smaller n
  have hdraws (n : Nat) : Nested.DrawsInOrder Value.takeNext (Nested.draw Value.takeNext n) :=
    Nested.drawsInOrder_draw Value.takeNext n
  have hslots : ∀ a ∈ pair.toList, a ∉ a.smaller :=
    fun a _ => sampling_goes_by_slots.{0, 0}.2.2.1 a
  have hcandidate : candidate ∈ pair.shrinkBy (native 2) := List.mem_singleton_self candidate
  have hjoined : s.join? t = some ⟨2, pair, by decide⟩ := rfl
  refine ⟨hshrinks, ?_, ⟨hslots, hcandidate, ?_⟩, hjoined, ?_, hdraws, ?_⟩
  · exact sampling_goes_by_slots.{0, 0}.1 (hshrinks 1) (hshrinks 1) (hshrinks 2) s.slots t.slots
  · exact (sampling_goes_by_slots.{0, 0}.2.1 (hshrinks 2) pair).2.2 hslots candidate hcandidate
  · exact sampling_goes_by_slots.{0, 0}.2.2.2.2.1 s t ⟨2, pair, by decide⟩ hjoined 5
  · exact (sampling_goes_by_slots.{0, 0}.2.2.2.2.2.1 (hdraws 1) (hdraws 1) (hdraws 2) feed).2.2

end Tuple

end Polyad
