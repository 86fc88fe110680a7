import Polyad.Tuple.Native
/-!
Tuples as test data. A tuple is drawn, and made smaller, by way of nested pairs: what
these do is handed in, and around it stand only the conversions in both directions.
-/

namespace Polyad

universe u v

variable {α : Type u} {σ : Type v}

namespace Nested

/-- Draw one value for each place from a source, first place first. -/
def draw (next : σ → α × σ) : (n : Nat) → σ → Nested α n × σ
  | 0, source => (PUnit.unit, source)
  | n + 1, source =>
    let (head, source) := next source
    let (tail, source) := draw next n source
    ((head, tail), source)

/-- The nested pairs with one value made smaller and every other value kept: first all
    those for the first place, then those for the second, and so on. -/
def shrink (smaller : α → List α) : {n : Nat} → Nested α n → List (Nested α n)
  | 0, _ => []
  | _ + 1, (head, tail) =>
    (smaller head).map (fun value => (value, tail)) ++
      (shrink smaller tail).map fun rest => (head, rest)

end Nested

namespace Tuple

/-- Draw a tuple in the way in which nested pairs are drawn. -/
def drawBy {n : Nat} (native : σ → Nested α n × σ) (source : σ) : Tuple α n × σ :=
  let (drawn, left) := native source
  (ofNested drawn, left)

/-- The smaller tuples, in the way in which nested pairs are made smaller. The copy of
    the tuple that is taken apart holds the same slots. -/
def shrinkBy {n : Nat} (native : Nested α n → List (Nested α n)) (t : Tuple α n) :
    List (Tuple α n) :=
  (native t.toNested).map ofNested

/-- Draw a tuple whose slots come from one source. -/
def draw (next : σ → α × σ) (n : Nat) : σ → Tuple α n × σ :=
  drawBy (Nested.draw next n)

/-- The smaller tuples, one slot made smaller after the other. -/
def shrink (smaller : α → List α) {n : Nat} (t : Tuple α n) : List (Tuple α n) :=
  t.shrinkBy (Nested.shrink smaller)

@[simp] theorem shrink_nil (smaller : α → List α) : (nil : Tuple α 0).shrink smaller = [] := rfl

@[simp] theorem shrink_cons (smaller : α → List α) {n : Nat} (head : α) (tail : Tuple α n) :
    (cons head tail).shrink smaller =
      (smaller head).map (fun value => cons value tail) ++
        (tail.shrink smaller).map (cons head) := by
  refine List.map_append.trans (congr (congrArg HAppend.hAppend ?_) ?_)
  · refine List.map_map.trans (List.map_congr_left fun value _ => ?_)
    exact congrArg (cons value) (ofNested_toNested tail)
  · exact List.map_map.trans (List.map_map (f := ofNested) (g := cons head)).symm

@[simp] theorem draw_zero (next : σ → α × σ) (source : σ) :
    draw next 0 source = (nil, source) := rfl

theorem draw_succ (next : σ → α × σ) (n : Nat) (source : σ) :
    draw next (n + 1) source =
      (cons (next source).1 (draw next n (next source).2).1,
        (draw next n (next source).2).2) := rfl

end Tuple

end Polyad
