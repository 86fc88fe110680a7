import Mathlib.Data.List.Destutter
import Polyad.Proofs.Digest
import Polyad.Proofs.Order.Agreement
import Polyad.Proofs.Order.StableSort
/-!
Which rows are the same is one question for equality, for the order and for
hashing. An ordered set keeps the first of the rows that are equal, as does cutting
each run of a sorted list to its first row, and a hashed set keeps as many.
-/

namespace Polyad

universe u v w

section

variable {β : Type u} {eq : β → β → Bool} {partialCmp : β → β → Option Ordering}
  {cmp : β → β → Ordering}

theorem Consistent.eq_self (hrows : Consistent eq partialCmp cmp) (row : β) :
    eq row row = true := by
  have := hrows.total
  exact (hrows.eq_iff row row).mpr Std.ReflCmp.compare_self

theorem Consistent.eq_congr (hrows : Consistent eq partialCmp cmp) {a b : β}
    (hequal : eq a b = true) (row : β) : eq row a = eq row b := by
  have := hrows.total
  have hab : cmp a b = .eq := (hrows.eq_iff a b).mp hequal
  rw [Bool.eq_iff_iff, hrows.eq_iff, hrows.eq_iff, Std.TransCmp.congr_right hab]

theorem Consistent.eq_comm (hrows : Consistent eq partialCmp cmp) (a b : β) : eq a b = eq b a := by
  have := hrows.total
  rw [Bool.eq_iff_iff, hrows.eq_iff, hrows.eq_iff, Std.OrientedCmp.eq_comm]

theorem Consistent.eq_class (hrows : Consistent eq partialCmp cmp) {a b : β}
    (hequal : eq a b = true) : eq a = eq b := by
  funext row
  rw [hrows.eq_comm, hrows.eq_congr hequal, hrows.eq_comm]

/-- What is above a row is not equal to it, nor to anything that is. -/
theorem Consistent.eq_false_of_lt (hrows : Consistent eq partialCmp cmp) {row a b : β}
    (hequal : eq row a = true) (hlt : cmp a b = .lt) : eq row b = false := by
  have := hrows.total
  have hrow : cmp row b = .lt := by
    rw [Std.TransCmp.congr_left ((hrows.eq_iff row a).mp hequal), hlt]
  rw [← Bool.not_eq_true, hrows.eq_iff, hrow]
  decide

theorem Consistent.lt_of_isLE (hrows : Consistent eq partialCmp cmp) {a b : β}
    (hle : (cmp a b).isLE = true) (hne : eq a b = false) : cmp a b = .lt := by
  have hdiffer : cmp a b ≠ .eq := by
    rw [ne_eq, ← hrows.eq_iff, hne]
    decide
  cases hanswer : cmp a b <;> simp_all

namespace Rows

variable {row : β} {rows set set' sorted : List β}

/-- A list holds the first of the rows that are equal, in ascending order. -/
structure KeepsFirst (eq : β → β → Bool) (cmp : β → β → Ordering) (rows set : List β) :
    Prop where
  increasing : set.Pairwise fun a b => cmp a b = .lt
  finds : ∀ row, set.find? (eq row) = rows.find? (eq row)

/-- A list holds one of the rows that are equal, in any order. -/
structure KeepsOne (eq : β → β → Bool) (rows set : List β) : Prop where
  distinct : set.Pairwise fun a b => eq a b = false
  covers : ∀ row, set.any (eq row) = rows.any (eq row)

theorem find?_eq_none_of_lt (hrows : Consistent eq partialCmp cmp) {first : β}
    (hfirst : ∀ other ∈ set, cmp first other = .lt) (hequal : eq row first = true) :
    set.find? (eq row) = none := by
  refine List.find?_eq_none.mpr fun other hother => ?_
  rw [hrows.eq_false_of_lt hequal (hfirst other hother)]
  decide

theorem isLE_of_find? (hrows : Consistent eq partialCmp cmp) {first : β}
    (hfirst : ∀ other ∈ set, cmp first other = .lt)
    (hfound : ((first :: set).find? (eq row)).isSome = true) : (cmp first row).isLE = true := by
  have hlawful := hrows.total
  obtain ⟨found, hmem, hequal⟩ := List.find?_isSome.mp hfound
  rw [Std.TransCmp.congr_right ((hrows.eq_iff row found).mp hequal)]
  obtain rfl | hmem := List.mem_cons.mp hmem
  · exact Std.ReflCmp.isLE_rfl
  · exact Ordering.isLE_of_eq_lt (hfirst found hmem)

private theorem isSome_eq_of_rel {R : β → β → Prop} {x y : Option β} (hrel : Option.Rel R x y) :
    x.isSome = y.isSome := by
  cases hrel <;> rfl

/-- Ascending lists in which the same rows are found go side by side. -/
theorem forall₂_of_find? (hrows : Consistent eq partialCmp cmp) {R : β → β → Prop}
    (hset : set.Pairwise fun a b => cmp a b = .lt) (hset' : set'.Pairwise fun a b => cmp a b = .lt)
    (hfound : ∀ row, Option.Rel R (set.find? (eq row)) (set'.find? (eq row))) :
    List.Forall₂ R set set' := by
  have hlawful := hrows.total
  induction set generalizing set' with
  | nil =>
    cases set' with
    | nil => exact .nil
    | cons y ys =>
      have hnone := isSome_eq_of_rel (hfound y)
      rw [List.find?_nil, List.find?_cons_of_pos (hrows.eq_self y)] at hnone
      cases hnone
  | cons x xs ih =>
    cases set' with
    | nil =>
      have hnone := isSome_eq_of_rel (hfound x)
      rw [List.find?_nil, List.find?_cons_of_pos (hrows.eq_self x)] at hnone
      cases hnone
    | cons y ys =>
      obtain ⟨hx, hxs⟩ := List.pairwise_cons.mp hset
      obtain ⟨hy, hys⟩ := List.pairwise_cons.mp hset'
      -- Each list finds the first row of the other one, so neither is above the other.
      have hequal : eq x y = true := by
        have hxy : (cmp x y).isLE = true := by
          apply isLE_of_find? hrows hx
          rw [isSome_eq_of_rel (hfound y), List.find?_cons_of_pos (hrows.eq_self y)]
          rfl
        have hyx : (cmp y x).isLE = true := by
          apply isLE_of_find? hrows hy
          rw [← isSome_eq_of_rel (hfound x), List.find?_cons_of_pos (hrows.eq_self x)]
          rfl
        exact (hrows.eq_iff x y).mpr (Std.OrientedCmp.isLE_antisymm hxy hyx)
      have hhead : R x y := by
        have hfirst := hfound x
        rw [List.find?_cons_of_pos (hrows.eq_self x), List.find?_cons_of_pos hequal] at hfirst
        cases hfirst with | some hhead => exact hhead
      refine .cons hhead (ih hxs hys fun row => ?_)
      have hsame : eq row x = eq row y := hrows.eq_congr hequal row
      by_cases hrow : eq row x = true
      · rw [find?_eq_none_of_lt hrows hx hrow, find?_eq_none_of_lt hrows hy (hsame ▸ hrow)]
        exact .none
      · have htail := hfound row
        rwa [List.find?_cons_of_neg hrow, List.find?_cons_of_neg (hsame ▸ hrow)] at htail

theorem forall_mem_insertOrdered {P : β → Prop} (hrow : P row) (hset : ∀ other ∈ set, P other) :
    ∀ other ∈ insertOrdered cmp row set, P other := by
  induction set with
  | nil => simpa [insertOrdered] using hrow
  | cons first rest ih =>
    rw [List.forall_mem_cons] at hset
    rw [insertOrdered]
    split <;> simp_all

theorem pairwise_insertOrdered (hrows : Consistent eq partialCmp cmp)
    (hset : set.Pairwise fun a b => cmp a b = .lt) (row : β) :
    (insertOrdered cmp row set).Pairwise fun a b => cmp a b = .lt := by
  have hlawful := hrows.total
  induction set with
  | nil => exact List.pairwise_singleton _ row
  | cons first rest ih =>
    obtain ⟨hfirst, hrest⟩ := List.pairwise_cons.mp hset
    rw [insertOrdered]
    split
    · next hlt =>
      refine List.pairwise_cons.mpr ⟨?_, hset⟩
      rw [List.forall_mem_cons]
      exact ⟨hlt, fun other hother => Std.TransCmp.lt_trans hlt (hfirst other hother)⟩
    · exact hset
    · next hgt =>
      have hrow : cmp first row = .lt := Std.OrientedCmp.lt_of_gt hgt
      exact List.pairwise_cons.mpr ⟨forall_mem_insertOrdered hrow hfirst, ih hrest⟩

/-- A row is only found if no equal one was there before. -/
theorem find?_insertOrdered (hrows : Consistent eq partialCmp cmp)
    (hset : set.Pairwise fun a b => cmp a b = .lt) (row key : β) :
    (insertOrdered cmp row set).find? (eq key) = (set ++ [row]).find? (eq key) := by
  induction set with
  | nil => rfl
  | cons first rest ih =>
    obtain ⟨hfirst, hrest⟩ := List.pairwise_cons.mp hset
    have hlawful := hrows.total
    rw [insertOrdered]
    split
    · next hlt =>
      have hrow : ∀ other ∈ first :: rest, cmp row other = .lt := by
        rw [List.forall_mem_cons]
        exact ⟨hlt, fun other hother => Std.TransCmp.lt_trans hlt (hfirst other hother)⟩
      by_cases hkey : eq key row = true
      · rw [List.find?_append, find?_eq_none_of_lt hrows hrow hkey,
          List.find?_cons_of_pos hkey, List.find?_cons_of_pos hkey]
        rfl
      · rw [List.find?_append, List.find?_cons_of_neg hkey, List.find?_cons_of_neg hkey,
          List.find?_nil, Option.or_none]
    · next hequal =>
      have hsame : eq key row = eq key first :=
        hrows.eq_congr ((hrows.eq_iff row first).mpr hequal) key
      by_cases hkey : eq key first = true
      · rw [List.cons_append, List.find?_cons_of_pos hkey, List.find?_cons_of_pos hkey]
      · rw [List.find?_append, List.find?_cons_of_neg (hsame ▸ hkey : ¬ eq key row = true),
          List.find?_nil, Option.or_none]
    · simp only [List.cons_append, List.find?_cons, ih hrest]

theorem keepsFirst_orderedSet (hrows : Consistent eq partialCmp cmp) (rows : List β) :
    KeepsFirst eq cmp rows (orderedSet cmp rows) := by
  induction rows using List.reverseRecOn with
  | nil => exact ⟨.nil, fun _ => rfl⟩
  | append_singleton rows row ih =>
    rw [orderedSet, List.foldl_append]
    refine ⟨pairwise_insertOrdered hrows ih.increasing row, fun key => ?_⟩
    calc (insertOrdered cmp row (orderedSet cmp rows)).find? (eq key)
      _ = (orderedSet cmp rows ++ [row]).find? (eq key) :=
        find?_insertOrdered hrows ih.increasing row key
      _ = (rows ++ [row]).find? (eq key) := by
        rw [List.find?_append, List.find?_append, ih.finds]

/-- There is only one way to keep the first of equal rows in ascending order. -/
theorem KeepsFirst.unique (hrows : Consistent eq partialCmp cmp)
    (hset : KeepsFirst eq cmp rows set) (hset' : KeepsFirst eq cmp rows set') : set = set' := by
  rw [← List.forall₂_eq_eq_eq]
  apply forall₂_of_find? hrows hset.increasing hset'.increasing
  intro row
  rw [hset.finds, hset'.finds]
  cases rows.find? (eq row) with
  | none => exact .none
  | some found => exact .some rfl

/-- Of neighbours that are equal, only the first one can be found. -/
theorem find?_destutter (hrows : Consistent eq partialCmp cmp) (rows : List β) (row : β) :
    (rows.destutter fun a b => eq a b = false).find? (eq row) = rows.find? (eq row) := by
  cases rows with
  | nil => rfl
  | cons first rest =>
    rw [List.destutter_cons']
    induction rest generalizing first with
    | nil => rfl
    | cons next rest ih =>
      by_cases hequal : eq first next = true
      · have hsame : eq row first = eq row next := hrows.eq_congr hequal row
        rw [List.destutter'_cons_neg _ (by simpa using hequal), ih]
        simp only [List.find?_cons, hsame]
        split <;> rfl
      · rw [List.destutter'_cons_pos _ (by simpa using hequal), List.find?_cons, ih,
          ← List.find?_cons]

/-- No two neighbours are equal, so no two rows are. -/
theorem pairwise_of_isChain (hrows : Consistent eq partialCmp cmp)
    (hordered : set.Pairwise fun a b => (cmp a b).isLE = true)
    (hchain : set.IsChain fun a b => eq a b = false) :
    set.Pairwise fun a b => cmp a b = .lt := by
  have hlawful := hrows.total
  have htrans : Trans (fun a b => cmp a b = .lt) (fun a b => cmp a b = .lt)
      (fun a b => cmp a b = .lt) := ⟨Std.TransCmp.lt_trans⟩
  rw [← List.isChain_iff_pairwise]
  induction hchain with
  | nil => exact .nil
  | singleton row => exact .singleton row
  | cons_cons hne hchain ih =>
    obtain ⟨hfirst, hrest⟩ := List.pairwise_cons.mp hordered
    exact .cons_cons (hrows.lt_of_isLE (hfirst _ List.mem_cons_self) hne) (ih hrest)

theorem keepsFirst_destutter (hrows : Consistent eq partialCmp cmp)
    (hsorted : StablySorts cmp rows sorted) :
    KeepsFirst eq cmp rows (sorted.destutter fun a b => eq a b = false) where
  increasing :=
    pairwise_of_isChain hrows (hsorted.ordered.sublist (List.destutter_sublist _ sorted))
      (List.isChain_destutter _ sorted)
  finds row := by
    have hclass : eq row = fun other => decide (cmp row other = .eq) := by
      funext other
      rw [Bool.eq_iff_iff, hrows.eq_iff, decide_eq_true_iff]
    rw [find?_destutter hrows, ← List.head?_filter, ← List.head?_filter, hclass, hsorted.stable]

theorem KeepsFirst.keepsOne (hrows : Consistent eq partialCmp cmp)
    (hset : KeepsFirst eq cmp rows set) : KeepsOne eq rows set where
  distinct := hset.increasing.imp fun {a _} hlt => hrows.eq_false_of_lt (hrows.eq_self a) hlt
  covers row := by rw [← List.isSome_find?, ← List.isSome_find?, hset.finds]

theorem KeepsOne.pairwise_sort (hrows : Consistent eq partialCmp cmp)
    (hset : KeepsOne eq rows set) :
    (sort cmp set).Pairwise fun a b => cmp a b = .lt := by
  have hlawful := hrows.total
  have hsorted := stablySorts_sort cmp set
  have hdistinct : (sort cmp set).Pairwise fun a b => eq a b = false :=
    hsorted.perm.symm.pairwise hset.distinct fun {a b} hne => hrows.eq_comm b a ▸ hne
  exact pairwise_of_isChain hrows hsorted.ordered hdistinct.isChain

/-- Ascending lists of the same rows go side by side with equal rows. -/
theorem forall₂_of_any_eq (hrows : Consistent eq partialCmp cmp)
    (hset : set.Pairwise fun a b => cmp a b = .lt) (hset' : set'.Pairwise fun a b => cmp a b = .lt)
    (hany : ∀ row, set.any (eq row) = set'.any (eq row)) :
    List.Forall₂ (fun a b => eq a b = true) set set' := by
  refine forall₂_of_find? hrows hset hset' fun row => ?_
  have hfound := hany row
  rw [← List.isSome_find?, ← List.isSome_find?] at hfound
  cases hleft : set.find? (eq row) with
  | none =>
    have hright : set'.find? (eq row) = none := by simpa [hleft] using hfound
    rw [hright]
    exact .none
  | some a =>
    obtain ⟨b, hright⟩ : ∃ b, set'.find? (eq row) = some b := by
      rw [hleft] at hfound
      exact Option.isSome_iff_exists.mp hfound.symm
    have hclass : eq row = eq a := hrows.eq_class (List.find?_some hleft)
    rw [hright]
    exact .some (hclass ▸ List.find?_some hright)

/-- However the rows that are kept are chosen, there are as many of them. -/
theorem KeepsOne.length_eq (hrows : Consistent eq partialCmp cmp) (hset : KeepsOne eq rows set)
    (hset' : KeepsOne eq rows set') : set.length = set'.length := by
  have hlawful := hrows.total
  have hperm := (stablySorts_sort cmp set).perm
  have hperm' := (stablySorts_sort cmp set').perm
  have hsorted : List.Forall₂ (fun a b => eq a b = true) (sort cmp set) (sort cmp set') := by
    apply forall₂_of_any_eq hrows (hset.pairwise_sort hrows) (hset'.pairwise_sort hrows)
    intro row
    rw [hperm.any_eq, hperm'.any_eq, hset.covers, hset'.covers]
  calc set.length
    _ = (sort cmp set).length := hperm.length_eq.symm
    _ = (sort cmp set').length := hsorted.length_eq
    _ = set'.length := hperm'.length_eq

theorem keepsOne_orderedSet (hrows : Consistent eq partialCmp cmp) (rows : List β) :
    KeepsOne eq rows (orderedSet cmp rows) :=
  (keepsFirst_orderedSet hrows rows).keepsOne hrows

theorem KeepsOne.of_subset (hset : KeepsOne eq rows set) {rows' : List β} (hsub : rows ⊆ rows')
    (hsub' : rows' ⊆ rows) : KeepsOne eq rows' set where
  distinct := hset.distinct
  covers row := by
    rw [hset.covers, Bool.eq_iff_iff, List.any_eq_true, List.any_eq_true]
    exact ⟨fun ⟨other, hmem, hequal⟩ => ⟨other, hsub hmem, hequal⟩,
      fun ⟨other, hmem, hequal⟩ => ⟨other, hsub' hmem, hequal⟩⟩

/-- The same rows in another order or number make the same ordered set. -/
theorem forall₂_orderedSet (hrows : Consistent eq partialCmp cmp) {rows' : List β}
    (hsub : rows ⊆ rows') (hsub' : rows' ⊆ rows) :
    List.Forall₂ (fun a b => eq a b = true) (orderedSet cmp rows) (orderedSet cmp rows') := by
  apply forall₂_of_any_eq hrows (keepsFirst_orderedSet hrows rows).increasing
    (keepsFirst_orderedSet hrows rows').increasing
  have hset := (keepsOne_orderedSet hrows rows).of_subset hsub hsub'
  intro row
  rw [hset.covers, (keepsOne_orderedSet hrows rows').covers]

variable {κ : Type v} [DecidableEq κ] {digest : β → κ}

/-- Equal rows have the same digest, so a row is found wherever an equal one is. -/
theorem any_digest (hrows : Consistent eq partialCmp cmp)
    (hdigest : ∀ a b, eq a b = true → digest a = digest b) (set : List β) (row : β) :
    (set.any fun other => digest other = digest row && eq other row) = set.any (eq row) := by
  congr 1
  funext other
  rw [hrows.eq_comm other row]
  cases hequal : eq row other with
  | false => simp
  | true => simp [hdigest row other hequal]

theorem keepsOne_insertHashed (hrows : Consistent eq partialCmp cmp)
    (hdigest : ∀ a b, eq a b = true → digest a = digest b) (hset : KeepsOne eq rows set)
    (row : β) : KeepsOne eq (rows ++ [row]) (insertHashed digest eq row set) := by
  rw [insertHashed, any_digest hrows hdigest]
  split
  · next hknown =>
    refine ⟨hset.distinct, fun key => ?_⟩
    rw [List.any_append, ← hset.covers]
    cases hkey : eq key row with
    | false => simp [hkey]
    | true => simp [hrows.eq_class hkey, hknown]
  · next hnew =>
    refine ⟨List.pairwise_cons.mpr ⟨?_, hset.distinct⟩, fun key => ?_⟩
    · simpa using hnew
    · rw [List.any_append, ← hset.covers, Bool.or_comm]
      simp

theorem keepsOne_hashedSet (hrows : Consistent eq partialCmp cmp)
    (hdigest : ∀ a b, eq a b = true → digest a = digest b) (rows : List β) :
    KeepsOne eq rows (hashedSet digest eq rows) := by
  induction rows using List.reverseRecOn with
  | nil => exact ⟨.nil, fun _ => rfl⟩
  | append_singleton rows row ih =>
    rw [hashedSet, List.foldl_append]
    exact keepsOne_insertHashed hrows hdigest ih row

end Rows

end

namespace Rows

/-- Where equality and the order of the slots agree and equal tuples have equal
    digests, there is one notion of distinct rows. The ordered set ascends, has
    exactly the rows that are equal to a given one, and is what any stable sort
    leaves when runs of equals are cut to their first row. Every set that keeps one
    of the rows that are equal, as the hashed one does, is as large. Neither set
    depends on the order of the rows or on how often they are given. Tuples of
    values, nested to any depth, are such rows, and their writes such digests. -/
theorem distinct_rows :
    (∀ {α : Type u} {eq : α → α → Bool} {partialCmp : α → α → Option Ordering}
        {cmp : α → α → Ordering}, Consistent eq partialCmp cmp →
      ∀ {κ : Type v} [DecidableEq κ] {n : Nat} (digest : Tuple α n → κ),
        (∀ s t : Tuple α n, s.beq eq t = true → digest s = digest t) →
      ∀ rows : List (Tuple α n),
        ((orderedSet (Tuple.compare cmp) rows).Pairwise fun s t => s.compare cmp t = .lt) ∧
        (∀ row : Tuple α n,
          (∃ other ∈ orderedSet (Tuple.compare cmp) rows, row.beq eq other = true) ↔
            ∃ other ∈ rows, row.beq eq other = true) ∧
        orderedSet (Tuple.compare cmp) rows =
          (sort (Tuple.compare cmp) rows).destutter (fun s t => s.beq eq t = false) ∧
        (hashedSet digest (Tuple.beq eq) rows).length =
          (orderedSet (Tuple.compare cmp) rows).length ∧
        (sort (Tuple.compare cmp) rows).Perm rows ∧
        (∀ rows', rows ⊆ rows' → rows' ⊆ rows →
          List.Forall₂ (fun s t => s.beq eq t = true)
            (orderedSet (Tuple.compare cmp) rows) (orderedSet (Tuple.compare cmp) rows') ∧
          (hashedSet digest (Tuple.beq eq) rows).length =
            (hashedSet digest (Tuple.beq eq) rows').length) ∧
        (∀ set, KeepsFirst (Tuple.beq eq) (Tuple.compare cmp) rows set ↔
          set = orderedSet (Tuple.compare cmp) rows) ∧
        (∀ set, KeepsOne (Tuple.beq eq) rows set →
          set.length = (orderedSet (Tuple.compare cmp) rows).length) ∧
        ∀ sorted, StablySorts (Tuple.compare cmp) rows sorted ↔
          sorted = sort (Tuple.compare cmp) rows) ∧
    Consistent Value.beq Value.partialCompare Value.compare ∧
    ∀ n, (∀ s t : Tuple Value n, s.beq Value.beq t = true → s.writes = t.writes) ∧
      ∀ rows rows' : List (Tuple Value n), rows ⊆ rows' → rows' ⊆ rows →
        orderedSet (Tuple.compare Value.compare) rows =
          orderedSet (Tuple.compare Value.compare) rows' := by
  refine ⟨?slots, Value.consistent, fun n => ⟨?writes, ?values⟩⟩
  case slots =>
    intro α eq partialCmp cmp hslots κ _ n digest hdigest rows
    have hrows := Tuple.consistent hslots n
    have hlawful := hrows.total
    have hordered := keepsFirst_orderedSet hrows rows
    have hsorted := stablySorts_sort (Tuple.compare cmp) rows
    have hone := keepsOne_orderedSet hrows rows
    have hhashed := keepsOne_hashedSet hrows hdigest
    have hrun := keepsFirst_destutter hrows hsorted
    refine ⟨hordered.increasing, ?members, hordered.unique hrows hrun,
      (hhashed rows).length_eq hrows hone, hsorted.perm, ?again, ?ordered, ?sizes,
      fun sorted => stablySorts_iff⟩
    case members =>
      intro row
      rw [← List.any_eq_true, ← List.any_eq_true, hone.covers]
    case again =>
      intro rows' hsub hsub'
      exact ⟨forall₂_orderedSet hrows hsub hsub',
        ((hhashed rows).of_subset hsub hsub').length_eq hrows (hhashed rows')⟩
    case ordered =>
      intro set
      exact ⟨fun hset => hset.unique hrows hordered, fun heq => heq ▸ hordered⟩
    case sizes => exact fun set hset => hset.length_eq hrows hone
  case writes => exact fun s t hequal => congrArg Tuple.writes (Tuple.eq_of_beq hequal)
  case values =>
    intro rows rows' hsub hsub'
    rw [← List.forall₂_eq_eq_eq]
    exact (forall₂_orderedSet (Tuple.consistent Value.consistent n) hsub hsub').imp
      fun _ _ => Tuple.eq_of_beq

/-- Rows of an option and a tuple, two of them given twice, whose writes collide in
    pairs: a tuple writes no more than its slots. -/
theorem distinct_rows_nested_values :
    let row (a b : Value) : Tuple Value 2 := .cons a (.cons b .nil)
    let pair := row (.present (.int 1)) (.tuple (Tuple.ofList [.bool true, .absent]))
    let single := row .absent (.tuple (Tuple.ofList [.text "a"]))
    let bare := row .absent (.text "a")
    let rows := [pair, single, bare, pair, single]
    Consistent Value.beq Value.partialCompare Value.compare ∧
      (∀ s t : Tuple Value 2, s.beq Value.beq t = true → s.writes = t.writes) ∧
      orderedSet (Tuple.compare Value.compare) rows = [bare, single, pair] ∧
      (hashedSet Tuple.writes (Tuple.beq Value.beq) rows).length = 3 ∧
      (hashedSet Tuple.writes (Tuple.beq Value.beq) [pair, bare, single]).length = 3 := by
  intro row pair single bare rows
  obtain ⟨hslots, hconsistent, hvalues⟩ := distinct_rows
  have hwrites := (hvalues 2).1
  obtain ⟨-, -, hcut, hsize, -, hagain, -⟩ := hslots hconsistent Tuple.writes hwrites rows
  have hordered : orderedSet (Tuple.compare Value.compare) rows = [bare, single, pair] := by rfl
  have hthree : (hashedSet Tuple.writes (Tuple.beq Value.beq) rows).length = 3 := by
    rw [hsize, hordered]
    rfl
  refine ⟨hconsistent, hwrites, hordered, hthree, ?_⟩
  rw [← (hagain [pair, bare, single] ?_ ?_).2, hthree]
  · simp [rows]
  · simp [rows]

end Rows

end Polyad
