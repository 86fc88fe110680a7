import Mathlib.Data.List.Induction
import Polyad.Rows
/-!
Sorting is stable: the rows come out in order, and rows that compare equal come
out in the order they went in. There is only one way to do that.
-/

namespace Polyad.Rows

universe u

open scoped List

variable {α : Type u} {cmp : α → α → Ordering} {row : α} {rows sorted : List α}

/-- A list holds some rows in order, with the rows of each class of equals in
    the order in which they were given. -/
structure StablySorts (cmp : α → α → Ordering) (rows sorted : List α) : Prop where
  perm : sorted ~ rows
  ordered : sorted.Pairwise fun a b => (cmp a b).isLE = true
  stable : ∀ row, sorted.filter (fun other => cmp row other = .eq) =
    rows.filter fun other => cmp row other = .eq

theorem perm_insertLast (cmp : α → α → Ordering) (row : α) (sorted : List α) :
    insertLast cmp row sorted ~ row :: sorted := by
  induction sorted with
  | nil => exact .refl [row]
  | cons last rest ih =>
    rw [insertLast]
    split
    · exact (ih.cons last).trans (.swap row last rest)
    · exact .refl (row :: last :: rest)

theorem pairwise_insertLast [Std.TransCmp cmp]
    (hsorted : sorted.Pairwise fun a b => (cmp b a).isLE = true) :
    (insertLast cmp row sorted).Pairwise fun a b => (cmp b a).isLE = true := by
  induction sorted with
  | nil => exact List.pairwise_singleton _ row
  | cons last rest ih =>
    obtain ⟨hlast, hrest⟩ := List.pairwise_cons.mp hsorted
    rw [insertLast]
    split
    · next hlt =>
      refine List.pairwise_cons.mpr ⟨fun other hother => ?_, ih hrest⟩
      obtain rfl | hother := List.mem_cons.mp ((perm_insertLast cmp row rest).mem_iff.mp hother)
      · exact Ordering.isLE_of_eq_lt hlt
      · exact hlast other hother
    · next hge =>
      have hrow : (cmp last row).isLE = true :=
        Std.OrientedCmp.isGE_iff_isLE.mp (Ordering.isGE_iff_ne_lt.mpr hge)
      refine List.pairwise_cons.mpr ⟨fun other hother => ?_, hsorted⟩
      obtain rfl | hother := List.mem_cons.mp hother
      · exact hrow
      · exact Std.TransCmp.isLE_trans (hlast other hother) hrow

/-- A row does not get in front of one of its class. -/
theorem filter_insertLast {p : α → Bool}
    (hclass : p row = true → ∀ other, p other = true → cmp row other ≠ .lt) :
    (insertLast cmp row sorted).filter p = (row :: sorted).filter p := by
  induction sorted with
  | nil => rfl
  | cons last rest ih =>
    rw [insertLast]
    split
    · next hlt =>
      rw [List.filter_cons, ih]
      by_cases hrow : p row = true
      · have hlast : p last ≠ true := fun hlast => hclass hrow last hlast hlt
        simp [List.filter_cons, hlast]
      · simp [List.filter_cons, hrow]
    · rfl

theorem stablySorts_insertLast [Std.TransCmp cmp] (hsorted : StablySorts cmp rows sorted.reverse)
    (row : α) : StablySorts cmp (rows ++ [row]) (insertLast cmp row sorted).reverse where
  perm :=
    calc (insertLast cmp row sorted).reverse
      _ ~ insertLast cmp row sorted := List.reverse_perm _
      _ ~ row :: sorted := perm_insertLast cmp row sorted
      _ ~ row :: rows := ((List.reverse_perm sorted).symm.trans hsorted.perm).cons row
      _ ~ rows ++ [row] := (List.perm_append_singleton row rows).symm
  ordered :=
    List.pairwise_reverse.mpr (pairwise_insertLast (List.pairwise_reverse.mp hsorted.ordered))
  stable key := by
    -- The new row only gets in front of rows above it, which are not in its class.
    have hclass : (decide (cmp key row = .eq)) = true →
        ∀ other, (decide (cmp key other = .eq)) = true → cmp row other ≠ .lt := by
      intro hrow other hother hlt
      rw [decide_eq_true_iff] at hrow hother
      rw [← Std.TransCmp.congr_left hrow, hother] at hlt
      cases hlt
    rw [List.filter_reverse, filter_insertLast hclass, ← List.filter_reverse, List.reverse_cons,
      List.filter_append, List.filter_append, hsorted.stable]

theorem stablySorts_sort (cmp : α → α → Ordering) [Std.TransCmp cmp] (rows : List α) :
    StablySorts cmp rows (sort cmp rows) := by
  induction rows using List.reverseRecOn with
  | nil => exact ⟨.refl [], .nil, fun _ => rfl⟩
  | append_singleton rows row ih =>
    rw [sort, List.foldl_append]
    exact stablySorts_insertLast ih row

/-- Lists in order with the same rows and the same classes are the same: each
    begins with the first row of the least class. -/
theorem eq_of_perm_of_filter_eq [Std.TransCmp cmp] {xs ys : List α} (hperm : xs ~ ys)
    (hxs : xs.Pairwise fun a b => (cmp a b).isLE = true)
    (hys : ys.Pairwise fun a b => (cmp a b).isLE = true)
    (hclass : ∀ row, xs.filter (fun other => cmp row other = .eq) =
      ys.filter fun other => cmp row other = .eq) : xs = ys := by
  induction xs generalizing ys with
  | nil => exact hperm.nil_eq
  | cons x xs ih =>
    cases ys with
    | nil => exact absurd hperm.eq_nil (List.cons_ne_nil x xs)
    | cons y ys =>
      -- Each first row is a row of the other list, so neither is above the other one.
      have hfirst {z : α} {zs : List α} (hzs : (z :: zs).Pairwise fun a b => (cmp a b).isLE = true)
          {other : α} (hother : other ∈ z :: zs) : (cmp z other).isLE = true := by
        obtain rfl | hother := List.mem_cons.mp hother
        · exact Std.ReflCmp.isLE_rfl
        · exact List.rel_of_pairwise_cons hzs hother
      have hequal : cmp x y = .eq := Std.OrientedCmp.isLE_antisymm
        (hfirst hxs (hperm.mem_iff.mpr List.mem_cons_self))
        (hfirst hys (hperm.mem_iff.mp List.mem_cons_self))
      obtain rfl : x = y := by
        have hheads := hclass x
        simp only [List.filter_cons, Std.ReflCmp.compare_self, hequal, decide_true, if_true]
          at hheads
        exact (List.cons.inj hheads).1
      refine congrArg (x :: ·) (ih hperm.cons_inv hxs.of_cons hys.of_cons fun row => ?_)
      have hrow := hclass row
      simp only [List.filter_cons] at hrow
      split at hrow
      · exact (List.cons.inj hrow).2
      · exact hrow

theorem StablySorts.unique [Std.TransCmp cmp] {sorted' : List α}
    (hsorted : StablySorts cmp rows sorted) (hsorted' : StablySorts cmp rows sorted') :
    sorted = sorted' := by
  apply eq_of_perm_of_filter_eq (hsorted.perm.trans hsorted'.perm.symm) hsorted.ordered
    hsorted'.ordered
  intro row
  rw [hsorted.stable, hsorted'.stable]

theorem stablySorts_iff [Std.TransCmp cmp] : StablySorts cmp rows sorted ↔ sorted = sort cmp rows :=
  ⟨fun hsorted => hsorted.unique (stablySorts_sort cmp rows),
    fun heq => heq ▸ stablySorts_sort cmp rows⟩

end Polyad.Rows
