import Mathlib.Order.Bounds.Basic
import GridCalc.Proofs.Reference.Intersection

/-!
# The least range around references

A rectangle is a set of cells whose rows and columns are each unbounded or an interval. The span of references covers
the least rectangle around them (`exists_span_box`): widening an axis by another gives the least extent around both
(`Axis.coordinates_widen_subset`), which a fold over boxes keeps (`Box.isLeast_foldl_span`).
-/

namespace GridCalc

/-- All integers, or those from one up to another. -/
def IsExtent (s : Set Int) : Prop := s = Set.univ ∨ ∃ low high, low ≤ high ∧ s = {n | low ≤ n ∧ n ≤ high}

/-- The cells of some extent of rows and some extent of columns. -/
def IsRectangle (s : Set (Int × Int)) : Prop := ∃ rows cols, IsExtent rows ∧ IsExtent cols ∧ s = rows ×ˢ cols

/-- The rectangles around some sets of cells. -/
def rectanglesAround (areas : List (Set (Int × Int))) : Set (Set (Int × Int)) :=
  {r | IsRectangle r ∧ ∀ area ∈ areas, area ⊆ r}

/-! ## Axes -/

namespace Axis

variable {a b : Axis}

theorem Ordered.isExtent (ha : a.Ordered) : IsExtent a.coordinates := by
  rcases a with _ | ⟨low, high⟩ | low | high <;> simp only [Ordered] at ha
  · exact Or.inl (by ext n; simp [mem_coordinates, Contains])
  · exact Or.inr ⟨low, high, ha, by ext n; simp [mem_coordinates, Contains]⟩

theorem Ordered.widen (ha : a.Ordered) (hb : b.Ordered) : (a.widen b).Ordered := by
  rcases a with _ | ⟨low, high⟩ | low | high <;> rcases b with _ | ⟨low', high'⟩ | low' | high' <;>
    simp_all only [Ordered, Axis.widen]
  omega

theorem widen_comm (a b : Axis) : a.widen b = b.widen a := by
  rcases a with _ | ⟨low, high⟩ | low | high <;> rcases b with _ | ⟨low', high'⟩ | low' | high' <;>
    simp [widen, min_comm, max_comm]

theorem subset_widen_left (a b : Axis) : a.coordinates ⊆ (a.widen b).coordinates := fun _ h => contains_widen_left h

theorem subset_widen_right (a b : Axis) : b.coordinates ⊆ (a.widen b).coordinates := by
  rw [widen_comm]
  exact subset_widen_left b a

/-- Every extent around both axes contains the wider one: it contains their ends. -/
theorem coordinates_widen_subset {s : Set Int} (hs : IsExtent s) (ha : a.Ordered) (hb : b.Ordered)
    (has : a.coordinates ⊆ s) (hbs : b.coordinates ⊆ s) : (a.widen b).coordinates ⊆ s := by
  rcases hs with rfl | ⟨l, h, -, rfl⟩
  · exact Set.subset_univ _
  · rcases a with _ | ⟨low, high⟩ | low | high <;> rcases b with _ | ⟨low', high'⟩ | low' | high' <;>
      simp only [Ordered] at ha hb
    · exact has
    · exact has
    · exact hbs
    · have h₁ := has ⟨le_refl low, ha⟩
      have h₂ := has ⟨ha, le_refl high⟩
      have h₃ := hbs ⟨le_refl low', hb⟩
      have h₄ := hbs ⟨hb, le_refl high'⟩
      intro n hn
      simp only [Set.mem_ofPred_eq, mem_coordinates, widen, Contains] at *
      omega

theorem Writable.widen (ha : a.Writable) (hb : b.Writable) : (a.widen b).Writable := by
  rcases a with _ | ⟨low, high⟩ | low | high <;> rcases b with _ | ⟨low', high'⟩ | low' | high' <;>
    simp_all [Writable, Axis.widen, low?, high?] <;> grind

end Axis

/-! ## Boxes -/

namespace Box

variable {b c : Box}

theorem Ordered.span (hb : b.Ordered) (hc : c.Ordered) : (b.span c).Ordered :=
  ⟨hb.rows.widen hc.rows, hb.cols.widen hc.cols⟩

theorem writable_span (hb : b.writable = true) (hc : c.writable = true) : (b.span c).writable = true := by
  rw [writable_iff] at hb hc ⊢
  exact ⟨hb.1.widen hc.1, hb.2.widen hc.2⟩

theorem Ordered.isRectangle (hb : b.Ordered) : IsRectangle b.cells :=
  ⟨_, _, hb.rows.isExtent, hb.cols.isExtent, rfl⟩

/-- A rectangle is around the span of two boxes iff it is around both. -/
theorem cells_span_subset_iff (hb : b.Ordered) (hc : c.Ordered) {r : Set (Int × Int)} (hr : IsRectangle r) :
    (b.span c).cells ⊆ r ↔ b.cells ⊆ r ∧ c.cells ⊆ r := by
  obtain ⟨rows, cols, hrows, hcols, rfl⟩ := hr
  constructor
  · intro h
    exact ⟨(Set.prod_mono (Axis.subset_widen_left _ _) (Axis.subset_widen_left _ _)).trans h,
      (Set.prod_mono (Axis.subset_widen_right _ _) (Axis.subset_widen_right _ _)).trans h⟩
  · rintro ⟨hbr, hcr⟩
    obtain ⟨hb₁, hb₂⟩ := (Set.prod_subset_prod_iff.mp hbr).resolve_right (by
      simp [hb.rows.nonempty.ne_empty, hb.cols.nonempty.ne_empty])
    obtain ⟨hc₁, hc₂⟩ := (Set.prod_subset_prod_iff.mp hcr).resolve_right (by
      simp [hc.rows.nonempty.ne_empty, hc.cols.nonempty.ne_empty])
    exact Set.prod_mono (Axis.coordinates_widen_subset hrows hb.rows hc.rows hb₁ hc₁)
      (Axis.coordinates_widen_subset hcols hb.cols hc.cols hb₂ hc₂)

theorem sheet_foldl_span (rest : List Box) : ∀ {b : Box}, b.sheet = none → (rest.foldl span b).sheet = none := by
  induction rest with
  | nil => exact fun hb => hb
  | cons c rest ih => exact fun _ => ih rfl

theorem writable_foldl_span (rest : List Box) : ∀ {b : Box}, b.writable = true → (∀ c ∈ rest, c.writable = true) →
    (rest.foldl span b).writable = true := by
  induction rest with
  | nil => exact fun hb _ => hb
  | cons c rest ih =>
    intro b hb hrest
    obtain ⟨hc, hrest⟩ := List.forall_mem_cons.mp hrest
    exact ih (writable_span hb hc) hrest

/-- The fold of a span covers the least rectangle around all boxes, on the sheet that it starts from. -/
theorem isLeast_foldl_span (rest : List Box) : ∀ {b : Box}, b.Ordered → b.sheet = none → (∀ c ∈ rest, c.Ordered) →
    (rest.foldl span b).Ordered ∧ (rest.foldl span b).sheet = none ∧
      IsLeast (rectanglesAround (b.cells :: rest.map cells)) (rest.foldl span b).cells := by
  induction rest with
  | nil =>
    intro b hb hs _
    refine ⟨hb, hs, ⟨hb.isRectangle, by simp⟩, fun r hr => hr.2 _ List.mem_cons_self⟩
  | cons c rest ih =>
    intro b hb hs hrest
    obtain ⟨hc, hrest⟩ := List.forall_mem_cons.mp hrest
    obtain ⟨hord, hsheet, hleast⟩ := ih (hb.span hc) rfl hrest
    have hsame : rectanglesAround (b.cells :: (c :: rest).map cells) =
        rectanglesAround ((b.span c).cells :: rest.map cells) := by
      ext r
      simp only [rectanglesAround, Set.mem_ofPred_eq, List.map_cons, List.forall_mem_cons, ← and_assoc]
      refine and_congr_left fun _ => ?_
      rw [and_assoc]
      exact and_congr_right fun hr => (cells_span_subset_iff hb hc hr).symm
    rw [hsame]
    exact ⟨hord, hsheet, hleast⟩

end Box

/-! ## Operands that are references -/

theorem span_cons (ref : Reference) (rest : List Reference) : span ((ref :: rest).map .reference) =
    .ok ((rest.map Reference.box).foldl Box.span { ref.box with sheet := none }).toRange := by
  rw [span, operandBoxes_references]
  rfl

theorem sheet_of_span {operands : List Value} {ref : Reference} (h : span operands = .ok ref) : ref.sheet = none := by
  obtain ⟨⟨b, boxes⟩, -, h⟩ := bind_eq_ok_iff.mp h
  cases h
  exact Box.sheet_foldl_span boxes rfl

/-- The span of references is the range of a box that covers the least rectangle around them, on no sheet. The box can
be written if the references can. -/
theorem exists_span_box {refs : List Reference} (hne : refs ≠ []) :
    ∃ b : Box, GridCalc.span (refs.map .reference) = .ok b.toRange ∧ b.Ordered ∧ b.sheet = none ∧
      IsLeast (rectanglesAround (refs.map Reference.cells)) b.cells ∧
      ((∀ ref ∈ refs, ref.writable = true) → b.writable = true) := by
  obtain ⟨ref, rest, rfl⟩ := List.exists_cons_of_ne_nil hne
  have hbox : ({ ref.box with sheet := none } : Box).Ordered := ⟨ref.ordered_box.rows, ref.ordered_box.cols⟩
  have hboxc : ({ ref.box with sheet := none } : Box).cells = ref.cells := ref.cells_box
  obtain ⟨hord, hsheet, hleast⟩ := Box.isLeast_foldl_span (rest.map Reference.box) hbox rfl
    (List.forall_mem_map.mpr fun other _ => other.ordered_box)
  refine ⟨_, span_cons ref rest, hord, hsheet, ?_, fun hw => ?_⟩
  · have hcells : (rest.map Reference.box).map Box.cells = rest.map Reference.cells := by
      rw [List.map_map]
      exact List.map_congr_left fun other _ => other.cells_box
    rwa [hboxc, hcells] at hleast
  · obtain ⟨hw, hws⟩ := List.forall_mem_cons.mp hw
    have hboxw : ({ ref.box with sheet := none } : Box).writable = true := ref.writable_box hw
    exact Box.writable_foldl_span _ hboxw
      (List.forall_mem_map.mpr fun other hother => other.writable_box (hws other hother))

end GridCalc
