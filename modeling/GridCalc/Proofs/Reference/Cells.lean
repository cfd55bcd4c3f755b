import Mathlib.Data.Set.Prod
import Mathlib.Order.Interval.Set.UnorderedInterval
import GridCalc.Reference.Algebra

/-!
# The cells of references

A reference covers a set of cells, each of them a row and a column; an axis with an unset end covers every coordinate.
The boxes of references are *ordered* (`Reference.ordered_box`): each axis is unbounded or runs from one end up to
another. On ordered boxes the operations mean what they should:

* two boxes meet iff they lie on one sheet and share a cell (`Box.meets_iff`), and their common part covers the common
  cells (`Box.cells_common`);
* a box is determined by its sheet and its cells (`Box.Ordered.ext`);
* the reference of a box covers the cells of the box (`Box.cells_toReference`), and is a cell iff that is the only one
  (`Box.isCell_toReference_iff`).
-/

namespace GridCalc

/-- The coordinates between two ends in any order, all of them if an end is unset. -/
def coordinatesBetween : Option Int → Option Int → Set Int
  | some a, some b => Set.uIcc a b
  | _, _ => Set.univ

namespace Reference

/-- The cells that a reference covers, by row and column. -/
def cells : Reference → Set (Int × Int)
  | cell r => {(r.row, r.col)}
  | range r => coordinatesBetween r.first.row r.last.row ×ˢ coordinatesBetween r.first.col r.last.col

def IsCell : Reference → Prop
  | cell _ => True
  | range _ => False

/-- Neither the reference nor one of its ends shows a text that it was read from. -/
def Unaddressed : Reference → Prop
  | cell r => r.address = none
  | range r => r.address = none ∧ r.first.address = none ∧ r.last.address = none

end Reference

/-! ## Axes -/

namespace Axis

/-- Unbounded, or between two ends in their order. -/
def Ordered : Axis → Prop
  | unbounded => True
  | between low high => low ≤ high
  | atLeast _ | atMost _ => False

def coordinates (axis : Axis) : Set Int := {n | axis.Contains n}

/-- The ends that are set are short enough to be written. -/
def Writable (axis : Axis) : Prop := ∀ n ∈ axis.low?.toList ++ axis.high?.toList, Number.intWritable n = true

variable {a b : Axis}

theorem mem_coordinates {n : Int} : n ∈ a.coordinates ↔ a.Contains n := Iff.rfl

theorem ordered_ofEnds (s t : Option Int) : (ofEnds s t).Ordered := by
  rcases s with _ | s <;> rcases t with _ | t <;> simp [ofEnds, Ordered]

theorem coordinates_ofEnds (s t : Option Int) : (ofEnds s t).coordinates = coordinatesBetween s t := by
  rcases s with _ | s <;> rcases t with _ | t <;> ext n <;>
    simp [ofEnds, coordinates, Contains, coordinatesBetween, Set.uIcc]

theorem coordinatesBetween_ends (ha : a.Ordered) : coordinatesBetween a.low? a.high? = a.coordinates := by
  rcases a with _ | ⟨low, high⟩ | low | high <;> simp only [Ordered] at ha
  · simp [low?, coordinatesBetween, coordinates, Contains]
  · ext n
    simp [low?, high?, coordinatesBetween, coordinates, Contains, Set.uIcc_of_le ha]

theorem Ordered.nonempty (ha : a.Ordered) : a.coordinates.Nonempty := by
  cases a with
  | unbounded => exact ⟨0, trivial⟩
  | between low high => exact ⟨low, le_refl low, ha⟩
  | atLeast low => exact ha.elim
  | atMost high => exact ha.elim

theorem coordinates_narrow (a b : Axis) : (a.narrow b).coordinates = a.coordinates ∩ b.coordinates := by
  ext n
  exact contains_narrow

/-- Ordered axes overlap iff some coordinate lies on both: the greater of the low ends does. -/
theorem overlaps_iff (ha : a.Ordered) (hb : b.Ordered) :
    a.overlaps b = true ↔ (a.coordinates ∩ b.coordinates).Nonempty := by
  rw [← coordinates_narrow]
  rcases a with _ | ⟨low, high⟩ | low | high <;> rcases b with _ | ⟨low', high'⟩ | low' | high' <;>
    simp only [Ordered] at ha hb
  · simp [overlaps, narrow, coordinates, Contains]
  · simpa [overlaps, narrow] using Ordered.nonempty (a := between low' high') hb
  · simpa [overlaps, narrow] using Ordered.nonempty (a := between low high) ha
  · constructor
    · intro h
      simp only [overlaps, Bool.not_eq_true', Bool.or_eq_false_iff, decide_eq_false_iff_not] at h
      exact ⟨max low low', by simp only [mem_coordinates, narrow, Contains]; omega⟩
    · rintro ⟨n, hn⟩
      simp only [mem_coordinates, narrow, Contains] at hn
      simp only [overlaps, Bool.not_eq_true', Bool.or_eq_false_iff, decide_eq_false_iff_not]
      omega

/-- The common part of overlapping ordered axes is ordered. -/
theorem Ordered.narrow (ha : a.Ordered) (hb : b.Ordered) (h : a.overlaps b = true) : (a.narrow b).Ordered := by
  rcases a with _ | ⟨low, high⟩ | low | high <;> rcases b with _ | ⟨low', high'⟩ | low' | high' <;>
    simp_all only [Ordered, Axis.narrow, overlaps, Bool.not_eq_true', Bool.or_eq_false_iff, decide_eq_false_iff_not]
  omega

/-- The least coordinate of a bounded axis, and a coordinate below it, tell the axes apart. -/
theorem Ordered.ext (ha : a.Ordered) (hb : b.Ordered) (h : a.coordinates = b.coordinates) : a = b := by
  have hmem : ∀ n, a.Contains n ↔ b.Contains n := fun n => by rw [← mem_coordinates, h, mem_coordinates]
  rcases a with _ | ⟨low, high⟩ | low | high <;> rcases b with _ | ⟨low', high'⟩ | low' | high' <;>
    simp only [Ordered, Contains] at ha hb hmem
  · rfl
  · have := (hmem (low' - 1)).mp trivial
    omega
  · have := (hmem (low - 1)).mpr trivial
    omega
  · have h₁ := hmem low
    have h₂ := hmem high
    have h₃ := hmem low'
    have h₄ := hmem high'
    rw [between.injEq]
    omega

theorem single?_eq_some_iff (ha : a.Ordered) {n : Int} : a.single? = some n ↔ a.coordinates = {n} := by
  rw [Set.eq_singleton_iff_unique_mem]
  simp only [mem_coordinates]
  rcases a with _ | ⟨low, high⟩ | low | high <;> simp only [Ordered] at ha
  · simp only [single?, Contains, reduceCtorEq, true_and, true_imp_iff, false_iff, not_forall]
    exact ⟨n + 1, by omega⟩
  · simp only [single?, Contains, Option.ite_none_right_eq_some, Option.some.injEq]
    constructor
    · rintro ⟨rfl, rfl⟩
      exact ⟨by omega, fun m hm => by omega⟩
    · rintro ⟨hn, hall⟩
      have h₁ := hall low (by omega)
      have h₂ := hall high (by omega)
      omega

theorem low?_of_single? {n : Int} (h : a.single? = some n) : a.low? = some n := by
  rcases a with _ | ⟨low, high⟩ | low | high <;> simp only [single?, reduceCtorEq] at h
  simpa [low?] using (Option.ite_none_right_eq_some.mp h).2

theorem writable_ofEnds {s t : Option Int} (hs : ∀ n ∈ s, Number.intWritable n = true)
    (ht : ∀ n ∈ t, Number.intWritable n = true) : (ofEnds s t).Writable := by
  rcases s with _ | s <;> rcases t with _ | t <;> simp_all [ofEnds, Writable, low?, high?]
  grind

/-- The ends of a common part are ends of one of the axes. -/
theorem Writable.narrow (ha : a.Writable) (hb : b.Writable) : (a.narrow b).Writable := by
  rcases a with _ | ⟨low, high⟩ | low | high <;> rcases b with _ | ⟨low', high'⟩ | low' | high' <;>
    simp_all [Writable, Axis.narrow, low?, high?] <;> grind

end Axis

/-! ## Boxes -/

namespace Box

structure Ordered (b : Box) : Prop where
  rows : b.rows.Ordered
  cols : b.cols.Ordered

/-- The cells of a box, by row and column. -/
def cells (b : Box) : Set (Int × Int) := b.rows.coordinates ×ˢ b.cols.coordinates

/-- The common part of two boxes, if they meet. -/
def common (b c : Box) : Box := ⟨b.rows.narrow c.rows, b.cols.narrow c.cols, b.sheet⟩

variable {b c : Box}

theorem Ordered.nonempty (hb : b.Ordered) : b.cells.Nonempty := hb.rows.nonempty.prod hb.cols.nonempty

theorem cells_common (b c : Box) : (b.common c).cells = b.cells ∩ c.cells := by
  simp only [cells, common, Axis.coordinates_narrow, Set.prod_inter_prod]

theorem meets_iff (hb : b.Ordered) (hc : c.Ordered) :
    b.meets c = true ↔ b.sheet = c.sheet ∧ (b.cells ∩ c.cells).Nonempty := by
  rw [cells, cells, Set.prod_inter_prod, Set.prod_nonempty_iff, ← Axis.overlaps_iff hb.rows hc.rows,
    ← Axis.overlaps_iff hb.cols hc.cols]
  simp [meets, and_assoc]

theorem Ordered.common (hb : b.Ordered) (hc : c.Ordered) (h : b.meets c = true) : (b.common c).Ordered := by
  simp only [meets, Bool.and_eq_true] at h
  exact ⟨hb.rows.narrow hc.rows h.1.2, hb.cols.narrow hc.cols h.2⟩

/-- Ordered boxes cover some cell, so that the cells determine both axes. -/
theorem Ordered.ext (hb : b.Ordered) (hc : c.Ordered) (hs : b.sheet = c.sheet) (h : b.cells = c.cells) : b = c := by
  obtain ⟨hr, hcol⟩ := (Set.prod_eq_prod_iff_of_nonempty hb.nonempty).mp h
  have hrows := hb.rows.ext hc.rows hr
  have hcols := hb.cols.ext hc.cols hcol
  cases b
  cases c
  simp_all

theorem writable_iff : b.writable = true ↔ b.rows.Writable ∧ b.cols.Writable := by
  obtain ⟨rows, cols, sheet⟩ := b
  rcases rows with _ | ⟨low, high⟩ | low | high <;> rcases cols with _ | ⟨low', high'⟩ | low' | high' <;>
    simp [writable, Axis.Writable, Axis.low?, Axis.high?, and_assoc]

theorem writable_common (hb : b.writable = true) (hc : c.writable = true) : (b.common c).writable = true := by
  rw [writable_iff] at hb hc ⊢
  exact ⟨hb.1.narrow hc.1, hb.2.narrow hc.2⟩

/-! ### Boxes as references -/

theorem sheet_toReference (b : Box) : b.toReference.sheet = b.sheet := by
  unfold toReference
  split <;> rfl

theorem unaddressed_toReference (b : Box) : b.toReference.Unaddressed := by
  unfold toReference
  split
  · rfl
  · exact ⟨rfl, rfl, rfl⟩

theorem cells_toRange (hb : b.Ordered) : b.toRange.cells = b.cells := by
  simp [toRange, Reference.cells, Axis.coordinatesBetween_ends hb.rows, Axis.coordinatesBetween_ends hb.cols, cells]

theorem single_iff (hb : b.Ordered) {row col : Int} :
    b.rows.single? = some row ∧ b.cols.single? = some col ↔ b.cells = {(row, col)} := by
  rw [Axis.single?_eq_some_iff hb.rows, Axis.single?_eq_some_iff hb.cols, cells, ← Set.singleton_prod_singleton,
    Set.prod_eq_prod_iff_of_nonempty hb.nonempty]

theorem cells_toReference (hb : b.Ordered) : b.toReference.cells = b.cells := by
  unfold toReference
  split
  · rename_i row col hrow hcol
    exact ((single_iff hb).mp ⟨hrow, hcol⟩).symm
  · exact cells_toRange hb

theorem isCell_toReference_iff (hb : b.Ordered) : b.toReference.IsCell ↔ ∃ p, b.cells = {p} := by
  unfold toReference
  split
  · rename_i row col hrow hcol
    exact ⟨fun _ => ⟨_, (single_iff hb).mp ⟨hrow, hcol⟩⟩, fun _ => trivial⟩
  · rename_i hnone
    refine ⟨fun h => h.elim, fun ⟨⟨row, col⟩, hp⟩ => ?_⟩
    obtain ⟨hrow, hcol⟩ := (single_iff hb).mpr hp
    exact hnone row col hrow hcol

theorem writable_toRange (hb : b.writable = true) : b.toRange.writable = true := by
  unfold writable at hb
  rw [List.all_eq_true] at hb
  simp only [toRange, Reference.writable, Reference.coordinates, List.all_eq_true, List.mem_filterMap, List.mem_cons,
    List.not_mem_nil, or_false, id] at hb ⊢
  rintro n ⟨e, rfl | rfl | rfl | rfl, he⟩ <;> exact hb n ⟨_, by simp, he⟩

theorem writable_toReference (hb : b.writable = true) : b.toReference.writable = true := by
  unfold toReference
  split
  · rename_i row col hrow hcol
    rw [writable_iff] at hb
    have hr := hb.1 row (by simp [Axis.low?_of_single? hrow])
    have hc := hb.2 col (by simp [Axis.low?_of_single? hcol])
    simp [Reference.writable, Reference.coordinates, hr, hc]
  · exact writable_toRange hb

end Box

/-! ## The box of a reference -/

namespace Reference

theorem sheet_box (ref : Reference) : ref.box.sheet = ref.sheet := by cases ref <;> rfl

theorem ordered_box (ref : Reference) : ref.box.Ordered := by
  cases ref with
  | cell r => exact ⟨le_refl r.row, le_refl r.col⟩
  | range r => exact ⟨Axis.ordered_ofEnds _ _, Axis.ordered_ofEnds _ _⟩

theorem cells_box (ref : Reference) : ref.box.cells = ref.cells := by
  cases ref with
  | cell r =>
    ext ⟨row, col⟩
    simp only [Box.cells, box, cells, Set.mem_prod, Axis.mem_coordinates, Axis.Contains, Set.mem_singleton_iff,
      Prod.mk.injEq]
    omega
  | range r => simp only [Box.cells, box, cells, Axis.coordinates_ofEnds]

theorem writable_box {ref : Reference} (h : ref.writable = true) : ref.box.writable = true := by
  rw [Box.writable_iff]
  cases ref with
  | cell r => simp_all [writable, coordinates, box, Axis.Writable, Axis.low?, Axis.high?]
  | range r =>
    simp only [writable, coordinates, List.all_eq_true, List.mem_filterMap, id] at h
    exact ⟨Axis.writable_ofEnds (fun n hn => h n ⟨_, by simp, hn⟩) (fun n hn => h n ⟨_, by simp, hn⟩),
      Axis.writable_ofEnds (fun n hn => h n ⟨_, by simp, hn⟩) (fun n hn => h n ⟨_, by simp, hn⟩)⟩

end Reference

end GridCalc
