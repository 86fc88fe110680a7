import Polyad.Proofs.Order.Comparators
import Polyad.Proofs.Order.StableSort
/-!
Sorting tuples by a comparator is sorting them by one column after another, the
last column first: each pass leaves rows with equal slots in the order of the
passes before it.
-/

namespace Polyad

universe u

namespace Rows

section

variable {β : Type u} {rows mid sorted : List β} {first second : β → β → Ordering}

/-- A stable pass keeps the order of the rows that it finds equal. -/
theorem StablySorts.pairwise_of_eq [Std.ReflCmp first] {R : β → β → Prop} (hmid : mid.Pairwise R)
    (hsorted : StablySorts first mid sorted) :
    sorted.Pairwise fun a b => first a b = .eq → R a b := by
  refine List.pairwise_iff_forall_sublist.mpr fun {a b} hab hequal => ?_
  have hclass : [a, b].Sublist (mid.filter fun other => first a other = .eq) := by
    rw [← hsorted.stable]
    have hself : first a a = .eq := Std.ReflCmp.compare_self
    simpa [hself, hequal] using hab.filter fun other => decide (first a other = .eq)
  exact List.pairwise_iff_forall_sublist.mp hmid (hclass.trans List.filter_sublist)

/-- A pass by `first` over rows in the order of `second` puts them in the order
    of `first` and, where that finds no difference, of `second`. -/
theorem StablySorts.andThen [Std.ReflCmp first] (hmid : StablySorts second rows mid)
    (hsorted : StablySorts first mid sorted) :
    StablySorts (compareLex first second) rows sorted where
  perm := hsorted.perm.trans hmid.perm
  ordered := by
    refine (hsorted.ordered.and (hsorted.pairwise_of_eq hmid.ordered)).imp ?_
    intro a b ⟨hfirst, hsecond⟩
    rw [compareLex, Ordering.isLE_then_iff_or]
    cases hanswer : first a b with
    | lt => exact .inl rfl
    | eq => exact .inr ⟨rfl, hsecond hanswer⟩
    | gt => simp [hanswer] at hfirst
  stable row := by
    -- A class of both comparisons is a class of one within a class of the other.
    have hsplit (xs : List β) : xs.filter (fun other => compareLex first second row other = .eq) =
        (xs.filter fun other => second row other = .eq).filter
          fun other => first row other = .eq := by
      simp only [compareLex_eq_eq, Bool.decide_and, List.filter_filter]
    rw [hsplit, hsplit, List.filter_comm, hsorted.stable, List.filter_comm, hmid.stable]

/-- Sorting by the last of several comparisons, then by the one before it and so
    on sorts by all of them. -/
theorem stablySorts_foldr {cmps : List (β → β → Ordering)}
    (hlawful : ∀ cmp ∈ cmps, Std.TransCmp cmp) (rows : List β) :
    StablySorts (lexicographic cmps) rows (cmps.foldr sort rows) := by
  induction cmps with
  | nil => exact ⟨.refl rows, List.pairwise_of_forall fun _ _ => rfl, fun _ => rfl⟩
  | cons cmp cmps ih =>
    have hhead : Std.TransCmp cmp := hlawful cmp List.mem_cons_self
    have hmid := ih fun other hother => hlawful other (List.mem_cons_of_mem cmp hother)
    exact hmid.andThen (stablySorts_sort cmp (cmps.foldr sort rows))

end

section

variable {α : Type u} {n : Nat}

/-- Sort tuples by each slot alone, from the last slot to the first. -/
def sortByColumns (cmps : Tuple (α → α → Ordering) n) (rows : List (Tuple α n)) :
    List (Tuple α n) :=
  (List.finRange n).foldr (fun k sorted => sort (Tuple.column cmps k) sorted) rows

theorem stablySorts_sortByColumns {cmps : Tuple (α → α → Ordering) n}
    (hlawful : ∀ k, Std.TransCmp (cmps.get k)) (rows : List (Tuple α n)) :
    StablySorts (Tuple.comparator cmps) rows (sortByColumns cmps rows) := by
  rw [Tuple.comparator_eq_lexicographic, sortByColumns, ← List.foldr_map]
  apply stablySorts_foldr
  intro cmp hcmp
  obtain ⟨k, -, rfl⟩ := List.mem_map.mp hcmp
  exact Tuple.transCmp_column (hlawful k)

/-- Sorting by a comparator of lawful comparisons and sorting by its columns,
    the last one first, give the same rows, whatever the stable sort in use: it
    has one result for each order. Nothing is lost, and rows that every column
    finds equal stay in the order they were given in. -/
theorem sort_comparator_eq_sortByColumns (cmps : Tuple (α → α → Ordering) n)
    (hlawful : ∀ k, Std.TransCmp (cmps.get k)) (rows : List (Tuple α n)) :
    sort (Tuple.comparator cmps) rows = sortByColumns cmps rows ∧
    (∀ sorted, StablySorts (Tuple.comparator cmps) rows sorted ↔
      sorted = sort (Tuple.comparator cmps) rows) ∧
    (∀ k mid sorted, StablySorts (Tuple.column cmps k) mid sorted ↔
      sorted = sort (Tuple.column cmps k) mid) ∧
    (sort (Tuple.comparator cmps) rows).Perm rows ∧
    ∀ row : Tuple α n,
      (sort (Tuple.comparator cmps) rows).filter
          (fun other => ∀ k, cmps.get k (row.get k) (other.get k) = .eq) =
        rows.filter fun other => ∀ k, cmps.get k (row.get k) (other.get k) = .eq := by
  have hcomparator : Std.TransCmp (Tuple.comparator cmps) := Tuple.transCmp_comparator hlawful
  have hsorted := stablySorts_sort (Tuple.comparator cmps) rows
  refine ⟨?columns, fun sorted => stablySorts_iff, ?passes, hsorted.perm, ?stable⟩
  case columns => exact hsorted.unique (stablySorts_sortByColumns hlawful rows)
  case passes =>
    intro k mid sorted
    have hcolumn : Std.TransCmp (Tuple.column cmps k) := Tuple.transCmp_column (hlawful k)
    exact stablySorts_iff
  case stable =>
    intro row
    simpa only [Tuple.comparator_eq_eq_iff, Tuple.column] using hsorted.stable row

/-- By kind and then backwards: the two rows that are equal so far as their kinds
    and numbers go keep their order, behind the one with the larger number. -/
theorem sort_comparator_eq_sortByColumns_kind_reverse :
    let cmps := Tuple.cons Value.Comparison.kind.ask (.cons Value.Comparison.reverse.ask .nil)
    let row (a b : Value) : Tuple Value 2 := .cons a (.cons b .nil)
    let rows := [row (.text "b") (.int 1), row (.bool true) (.int 2), row (.text "a") (.int 1),
      row (.text "c") (.int 3)]
    (∀ k, Std.TransCmp (cmps.get k)) ∧
      sort (Tuple.comparator cmps) rows = sortByColumns cmps rows ∧
      sortByColumns cmps rows = [row (.bool true) (.int 2), row (.text "c") (.int 3),
        row (.text "b") (.int 1), row (.text "a") (.int 1)] := by
  intro cmps row rows
  have hkind : Std.TransCmp Value.Comparison.kind.ask :=
    Value.Comparison.transCmp_ask (by intro answer heq; cases heq)
  have hreverse : Std.TransCmp Value.Comparison.reverse.ask :=
    Value.Comparison.transCmp_ask (by intro answer heq; cases heq)
  have hslots : ∀ k, Std.TransCmp (cmps.get k)
    | 0 => hkind
    | 1 => hreverse
  exact ⟨hslots, (sort_comparator_eq_sortByColumns cmps hslots rows).1, by rfl⟩

end

end Rows

end Polyad
