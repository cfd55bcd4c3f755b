import Mathlib.Data.List.Perm.Basic
import GridCalc.Proofs.Reference.Enclosure

/-!
# Span of references

* `RunsAround`: an axis is open where one of some ends is unset, and otherwise runs from the least of them to the
  greatest. Widening keeps this (`RunsAround.widen`), and so does the fold of a span (`Box.runsAround_foldl_span`).
* Spans agree where the same rectangles are around their operands (`span_congr`).

Main statement: `span_exact`. The span of references is a range on no sheet that covers the least rectangle around them.
So it does not depend on their order, their repetitions and their sheets, and some of them may be replaced by their span.
-/

namespace GridCalc

/-- The two ends of an axis around some given ends: both are unset if one of these is, and otherwise they are the least
and the greatest of these. -/
inductive RunsAround (ends : List (Option Int)) : Option Int → Option Int → Prop
  | unset : none ∈ ends → RunsAround ends none none
  | between {low high : Int} : none ∉ ends → IsLeast {n | some n ∈ ends} low → IsGreatest {n | some n ∈ ends} high →
      RunsAround ends (some low) (some high)

namespace Reference

/-- The rows at which a reference ends, each of which may be unset. -/
def rowEnds : Reference → List (Option Int)
  | cell r => [some r.row]
  | range r => [r.first.row, r.last.row]

/-- The columns at which a reference ends, each of which may be unset. -/
def colEnds : Reference → List (Option Int)
  | cell r => [some r.col]
  | range r => [r.first.col, r.last.col]

end Reference

/-! ## Axes -/

theorem runsAround_single (n : Int) : RunsAround [some n] (some n) (some n) := by
  have hset : {m | some m ∈ [some n]} = {n} := by
    ext m
    simp
  refine .between (by simp) ?_ ?_
  · rw [hset]
    exact isLeast_singleton
  · rw [hset]
    exact isGreatest_singleton

theorem runsAround_ofEnds (s t : Option Int) : RunsAround [s, t] (Axis.ofEnds s t).low? (Axis.ofEnds s t).high? := by
  rcases s with _ | a
  · exact .unset (by simp)
  rcases t with _ | b
  · exact .unset (by simp)
  have hset : {n | some n ∈ [some a, some b]} = {a, b} := by
    ext n
    simp
  refine .between (by simp) ?_ ?_
  · rw [hset]
    exact isLeast_pair
  · rw [hset]
    exact isGreatest_pair

/-- What runs around two lists of ends, widened by one another, runs around both. -/
theorem RunsAround.widen {ends ends' : List (Option Int)} {a b : Axis} (ha : RunsAround ends a.low? a.high?)
    (hb : RunsAround ends' b.low? b.high?) : RunsAround (ends ++ ends') (a.widen b).low? (a.widen b).high? := by
  have hset : {n | some n ∈ ends ++ ends'} = {n | some n ∈ ends} ∪ {n | some n ∈ ends'} := by
    ext n
    simp
  rcases a with _ | ⟨low, high⟩ | low | high
  · cases ha with
    | unset h => exact .unset (List.mem_append_left _ h)
  · rcases b with _ | ⟨low', high'⟩ | low' | high'
    · cases hb with
      | unset h => exact .unset (List.mem_append_right _ h)
    · cases ha with
      | between hset₁ hleast₁ hgreatest₁ =>
        cases hb with
        | between hset₂ hleast₂ hgreatest₂ =>
          refine .between (by simp [hset₁, hset₂]) ?_ ?_
          · rw [hset]
            exact hleast₁.union hleast₂
          · rw [hset]
            exact hgreatest₁.union hgreatest₂
    · cases hb
    · cases hb
  · cases ha
  · cases ha

/-! ## Boxes -/

namespace Reference

theorem runsAround_rows (ref : Reference) : RunsAround ref.rowEnds ref.box.rows.low? ref.box.rows.high? := by
  cases ref with
  | cell r => exact runsAround_single r.row
  | range r => exact runsAround_ofEnds _ _

theorem runsAround_cols (ref : Reference) : RunsAround ref.colEnds ref.box.cols.low? ref.box.cols.high? := by
  cases ref with
  | cell r => exact runsAround_single r.col
  | range r => exact runsAround_ofEnds _ _

end Reference

/-- The running box of a span runs around the ends of all references so far. -/
theorem Box.runsAround_foldl_span (rest : List Reference) : ∀ {b : Box} {rows cols : List (Option Int)},
    RunsAround rows b.rows.low? b.rows.high? → RunsAround cols b.cols.low? b.cols.high? →
    let b' := (rest.map Reference.box).foldl span b
    RunsAround (rows ++ rest.flatMap Reference.rowEnds) b'.rows.low? b'.rows.high? ∧
      RunsAround (cols ++ rest.flatMap Reference.colEnds) b'.cols.low? b'.cols.high? := by
  induction rest with
  | nil =>
    intro b rows cols hrows hcols
    simpa using And.intro hrows hcols
  | cons ref rest ih =>
    intro b rows cols hrows hcols
    have hrows' : RunsAround (rows ++ ref.rowEnds) (b.span ref.box).rows.low? (b.span ref.box).rows.high? :=
      hrows.widen ref.runsAround_rows
    have hcols' : RunsAround (cols ++ ref.colEnds) (b.span ref.box).cols.low? (b.span ref.box).cols.high? :=
      hcols.widen ref.runsAround_cols
    simpa only [List.map_cons, List.foldl_cons, List.flatMap_cons, List.append_assoc] using ih hrows' hcols'

/-! ## The range around references -/

theorem span_runsAround {refs : List Reference} (hne : refs ≠ []) :
    ∃ r : RangeReference, span (refs.map .reference) = .ok (.range r) ∧ r.sheet = none ∧
      (Reference.range r).Unaddressed ∧ RunsAround (refs.flatMap Reference.rowEnds) r.first.row r.last.row ∧
      RunsAround (refs.flatMap Reference.colEnds) r.first.col r.last.col := by
  obtain ⟨ref, rest, rfl⟩ := List.exists_cons_of_ne_nil hne
  obtain ⟨hrows, hcols⟩ :=
    Box.runsAround_foldl_span rest (b := { ref.box with sheet := none }) ref.runsAround_rows ref.runsAround_cols
  exact ⟨_, span_cons ref rest, Box.sheet_foldl_span _ rfl, ⟨rfl, rfl, rfl⟩, hrows, hcols⟩

/-- A span covers the least rectangle around its operands. -/
theorem isLeast_of_span {refs : List Reference} {s : Reference} (hne : refs ≠ [])
    (hs : span (refs.map .reference) = .ok s) : IsLeast (rectanglesAround (refs.map Reference.cells)) s.cells := by
  obtain ⟨b, hb, hord, -, hleast, -⟩ := exists_span_box hne
  have hbs : b.toRange = s := Except.ok.inj (hb.symm.trans hs)
  rwa [← hbs, Box.cells_toRange hord]

/-- References with the same rectangles around them have the same span. -/
theorem span_congr {refs others : List Reference} (hne : refs ≠ []) (hne' : others ≠ [])
    (h : rectanglesAround (others.map Reference.cells) = rectanglesAround (refs.map Reference.cells)) :
    span (others.map .reference) = span (refs.map .reference) := by
  obtain ⟨b, hb, hord, hsheet, hleast, -⟩ := exists_span_box hne
  obtain ⟨c, hc, hord', hsheet', hleast', -⟩ := exists_span_box hne'
  have hcells : c.cells = b.cells := by
    rw [h] at hleast'
    exact hleast'.unique hleast
  rw [hb, hc, hord'.ext hord (hsheet'.trans hsheet.symm) hcells]

theorem rectanglesAround_congr {refs others : List Reference}
    (h : Reference.cells '' {ref | ref ∈ others} = Reference.cells '' {ref | ref ∈ refs}) :
    rectanglesAround (others.map Reference.cells) = rectanglesAround (refs.map Reference.cells) := by
  have hmem : ∀ area, area ∈ others.map Reference.cells ↔ area ∈ refs.map Reference.cells := by
    intro area
    simpa using Set.ext_iff.mp h area
  ext s
  simp only [rectanglesAround, Set.mem_ofPred_eq, hmem]

/-- A rectangle is around references iff it is around the rest of them and the span of some. -/
theorem rectanglesAround_span_cons {part rest : List Reference} {s : Reference} (hne : part ≠ [])
    (hs : span (part.map .reference) = .ok s) :
    rectanglesAround ((s :: rest).map Reference.cells) = rectanglesAround ((part ++ rest).map Reference.cells) := by
  have hleast := isLeast_of_span hne hs
  ext r
  simp only [rectanglesAround, Set.mem_ofPred_eq, List.map_cons, List.map_append, List.forall_mem_cons,
    List.forall_mem_append]
  refine and_congr_right fun hr => and_congr_left fun _ => ⟨fun hsub area harea => ?_, fun hpart => ?_⟩
  · exact (hleast.1.2 area harea).trans hsub
  · exact hleast.2 ⟨hr, hpart⟩

theorem span_perm {refs others : List Reference} (hne : refs ≠ []) (h : others.Perm refs) :
    span (others.map .reference) = span (refs.map .reference) := by
  have hne' : others ≠ [] := by
    rintro rfl
    exact hne (List.nil_perm.mp h)
  refine span_congr hne hne' (rectanglesAround_congr ?_)
  simp only [h.mem_iff]

/-- The span of references is a range on no sheet and without texts. Each of its axes is open iff a reference leaves it
open, and otherwise runs from the least coordinate of the references to the greatest. It covers the least rectangle
around them. References with the same cells, in any order and number and on whichever sheets, have the same span, and
so have these references once some of them are replaced by their own span. -/
theorem span_exact (refs : List Reference) (hne : refs ≠ []) :
    ∃ r : RangeReference, span (refs.map .reference) = .ok (.range r) ∧ r.sheet = none ∧
      (Reference.range r).Unaddressed ∧
      RunsAround (refs.flatMap Reference.rowEnds) r.first.row r.last.row ∧
      RunsAround (refs.flatMap Reference.colEnds) r.first.col r.last.col ∧
      IsLeast (rectanglesAround (refs.map Reference.cells)) (Reference.range r).cells ∧
      (∀ others : List Reference, others ≠ [] →
        Reference.cells '' {ref | ref ∈ others} = Reference.cells '' {ref | ref ∈ refs} →
        span (others.map .reference) = .ok (.range r)) ∧
      ∀ (part rest others : List Reference) (s : Reference), part ≠ [] → refs.Perm (part ++ rest) →
        span (part.map .reference) = .ok s → others.Perm (s :: rest) →
        span (others.map .reference) = .ok (.range r) := by
  obtain ⟨r, hr, hsheet, htexts, hrows, hcols⟩ := span_runsAround hne
  refine ⟨r, hr, hsheet, htexts, hrows, hcols, isLeast_of_span hne hr, fun others hne' hcells => ?_,
    fun part rest others s hpart hrefs hs hothers => ?_⟩
  · rw [span_congr hne hne' (rectanglesAround_congr hcells), hr]
  · have hne' : part ++ rest ≠ [] := by simp [hpart]
    calc span (others.map .reference)
        = span ((s :: rest).map .reference) := span_perm (List.cons_ne_nil _ _) hothers
      _ = span ((part ++ rest).map .reference) :=
          span_congr hne' (List.cons_ne_nil _ _) (rectanglesAround_span_cons hpart hs)
      _ = span (refs.map .reference) := (span_perm hne' hrefs).symm
      _ = .ok (.range r) := hr

/-- The cell `B3` on a sheet, the block `C5:D-2` and the columns from `E` on, without an end. -/
def scatteredOperands : List Reference :=
  [.cell { col := 2, row := 3, sheet := some "Data", address := some "B3" },
    .range { first := ⟨some 3, some 5, none⟩, last := ⟨some 4, some (-2), none⟩, sheet := none, address := none },
    .range { first := ⟨some 5, some 1, none⟩, last := ⟨none, some 1, none⟩, sheet := none, address := none }]

theorem span_exact_scattered : scatteredOperands ≠ [] ∧ ∃ r : RangeReference,
    span (scatteredOperands.map .reference) = .ok (.range r) ∧ r.sheet = none ∧ r.first.row = some (-2) ∧
      r.last.row = some 5 ∧ r.first.col = none ∧ r.last.col = none ∧
      span (scatteredOperands.reverse.map .reference) = .ok (.range r) := by
  have hne : scatteredOperands ≠ [] := by simp [scatteredOperands]
  obtain ⟨r, hr, hsheet, -, -, -, -, hsame, -⟩ := span_exact scatteredOperands hne
  have hrange : span (scatteredOperands.map .reference) =
      .ok (.range ⟨⟨none, some (-2), none⟩, ⟨none, some 5, none⟩, none, none⟩) := by rfl
  cases hr.symm.trans hrange
  exact ⟨hne, _, hr, hsheet, rfl, rfl, rfl, rfl, hsame _ (by simp [scatteredOperands]) (by simp)⟩

end GridCalc
