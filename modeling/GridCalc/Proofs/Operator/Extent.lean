import GridCalc.Proofs.Operator.Layout

/-!
# The extent of broadcast arrays

An operation that has a result on all values has one on arrays iff their rows are of one width each. The result is then
as high as the higher and as wide as the wider of the two, and at each place stands what the operation makes of what the
arrays show there.

Main statement: `broadcast_extent`.
-/

namespace GridCalc

/-- All rows are of one width. -/
def Rows.OneWidth (rows : Rows) : Prop := ∃ width, ∀ row ∈ rows, row.length = width

/-- The array that holds a single value has the rows of the value by itself. -/
theorem rows_singleton (v : Value) : Operand.rows ⟨.list [.list [v]], true⟩ = Operand.rows ⟨v, false⟩ := rfl

/-! ## Rows of several widths -/

variable {op : Value → Value → Except Fault Value} {lrows rrows : Rows}

theorem Rows.OneWidth.isGrid {rows : Rows} (h : rows.OneWidth) : ∃ width, rows.IsGrid rows.length width := by
  obtain ⟨width, hwidth⟩ := h
  exact ⟨width, rfl, hwidth⟩

theorem zipRows_of_irregular_left (h : ¬lrows.OneWidth) :
    zipRows op lrows rrows = .error (.invalid (.irregularRows (lrows.map List.length))) := by
  rw [zipRows, Rows.shape_of_irregular h]
  rfl

theorem zipRows_of_irregular_right (hl : lrows.OneWidth) (hne : lrows ≠ []) (h : ¬rrows.OneWidth) :
    zipRows op lrows rrows = .error (.invalid (.irregularRows (rrows.map List.length))) := by
  obtain ⟨width, hgrid⟩ := hl.isGrid
  rw [zipRows, hgrid.shape (List.length_pos_of_ne_nil hne), Rows.shape_of_irregular h]
  rfl

/-! ## Operands -/

section

variable {left right : Operand} (hl : left.Presents lrows) (hr : right.Presents rrows)
  (harray : (left.isArray || right.isArray) = true)
include hl hr harray

theorem broadcast_of_presents : broadcast op left right = Rows.toValue <$> zipRows op lrows rrows :=
  broadcast_of_isArray harray hl.rows_eq hr.rows_eq

theorem broadcast_of_irregular (op : Value → Value → Except Fault Value) (h : ¬lrows.OneWidth ∨ ¬rrows.OneWidth) :
    ∃ rows ∈ [lrows, rrows], ¬rows.OneWidth ∧
      broadcast op left right = .error (.invalid (.irregularRows (rows.map List.length))) := by
  rw [broadcast_of_presents hl hr harray]
  by_cases hlwidth : lrows.OneWidth
  · have hrwidth : ¬rrows.OneWidth := h.resolve_left (not_not.mpr hlwidth)
    exact ⟨rrows, by simp, hrwidth, by rw [zipRows_of_irregular_right hlwidth hl.ne_nil hrwidth]; rfl⟩
  · exact ⟨lrows, by simp, hlwidth, by rw [zipRows_of_irregular_left hlwidth]; rfl⟩

/-- Arrays of one width each have a result, place by place. -/
theorem broadcast_of_grids (hop : ∀ x y, ∃ v, op x y = .ok v) {lh lw rh rw' : Nat} (hlgrid : lrows.IsGrid lh lw)
    (hrgrid : rrows.IsGrid rh rw') :
    ∃ rows : Rows, broadcast op left right = .ok rows.toValue ∧ rows.IsGrid (max lh rh) (max lw rw') ∧
      ∀ i < max lh rh, ∀ j < max lw rw', ∃ v, rows.get? i j = some v ∧
        op (lrows.shownAt lh lw i j) (rrows.shownAt rh rw' i j) = .ok v := by
  obtain ⟨v, hv⟩ := exists_broadcast_of_shownAt hl hr hlgrid hrgrid fun _ _ => hop _ _
  have hshows := (broadcast_eq_ok_iff hl hr hlgrid hrgrid).mp hv
  rw [Layout.join, if_pos harray] at hshows
  obtain ⟨rows, rfl, hgrid, hplaces⟩ := hshows
  exact ⟨rows, hv, hgrid, hplaces⟩

end

/-- An operation that has a result on all values, on operands of which one is an array: it fails iff an operand has rows
of several widths, and then because of these. Otherwise the result has as many rows as the higher operand and as many
columns as the wider one, and each of its entries is what the operation makes of what the operands show at its place:
a single row or column is repeated, and further out is `#N/A`. A value by itself counts as the array that holds it. -/
theorem broadcast_extent {left right : Operand} (hop : ∀ x y, ∃ v, op x y = .ok v) (hl : left.Presents lrows)
    (hr : right.Presents rrows) (harray : left.isArray = true ∨ right.isArray = true) :
    ((∃ fault, broadcast op left right = .error fault) ↔ ¬lrows.OneWidth ∨ ¬rrows.OneWidth) ∧
    (∀ fault, broadcast op left right = .error fault → ∃ rows ∈ [lrows, rrows],
      ¬rows.OneWidth ∧ fault = .invalid (.irregularRows (rows.map List.length))) ∧
    (∀ lh lw rh rw', lrows.IsGrid lh lw → rrows.IsGrid rh rw' →
      ∃ rows : Rows, broadcast op left right = .ok rows.toValue ∧ rows.IsGrid (max lh rh) (max lw rw') ∧
        ∀ i < max lh rh, ∀ j < max lw rw', ∃ v, rows.get? i j = some v ∧
          op (lrows.shownAt lh lw i j) (rrows.shownAt rh rw' i j) = .ok v) ∧
    (∀ v, left = ⟨v, false⟩ → broadcast op ⟨.list [.list [v]], true⟩ right = broadcast op left right) ∧
    ∀ v, right = ⟨v, false⟩ → broadcast op left ⟨.list [.list [v]], true⟩ = broadcast op left right := by
  rw [← Bool.or_eq_true] at harray
  have hirregular : ∀ fault, broadcast op left right = .error fault → ¬lrows.OneWidth ∨ ¬rrows.OneWidth := by
    intro fault hfault
    by_contra hnot
    rw [not_or, not_not, not_not] at hnot
    obtain ⟨lw, hlgrid⟩ := hnot.1.isGrid
    obtain ⟨rw', hrgrid⟩ := hnot.2.isGrid
    obtain ⟨rows, hrows, -⟩ := broadcast_of_grids hl hr harray hop hlgrid hrgrid
    rw [hfault] at hrows
    cases hrows
  refine ⟨⟨fun ⟨fault, hfault⟩ => hirregular fault hfault, fun h => ?_⟩, fun fault hfault => ?_, fun lh lw rh rw' => ?_,
    ?_, ?_⟩
  · obtain ⟨rows, -, -, hwidths⟩ := broadcast_of_irregular hl hr harray op h
    exact ⟨_, hwidths⟩
  · obtain ⟨rows, hmem, hrows, hwidths⟩ := broadcast_of_irregular hl hr harray op (hirregular fault hfault)
    exact ⟨rows, hmem, hrows, Except.error.inj (hfault.symm.trans hwidths)⟩
  · exact broadcast_of_grids hl hr harray hop
  · rintro v rfl
    rw [broadcast_of_isArray rfl ((rows_singleton v).trans hl.rows_eq) hr.rows_eq, broadcast_of_presents hl hr harray]
  · rintro v rfl
    rw [broadcast_of_isArray (Bool.or_true _) hl.rows_eq ((rows_singleton v).trans hr.rows_eq),
      broadcast_of_presents hl hr harray]

/-- A list without entries against a column of two entries, and rows of several widths against a value by itself. -/
theorem broadcast_extent_uneven :
    (∃ rows : Rows, broadcast (fun x y => .ok (.list [x, y])) ⟨.list [], true⟩
        ⟨.list [.list [.int 1], .list [.int 2]], true⟩ = .ok rows.toValue ∧ rows.IsGrid 2 1 ∧
      rows.get? 1 0 = some (.list [.error .notAvailable, .int 2])) ∧
    ∃ fault, broadcast (fun x y => .ok (.list [x, y])) ⟨.list [.list [.int 1], .list [.int 2, .int 3]], true⟩
      ⟨.int 5, false⟩ = .error fault := by
  have hop : ∀ x y : Value, ∃ v, (Except.ok (.list [x, y]) : Except Fault Value) = .ok v := fun x y => ⟨_, rfl⟩
  obtain ⟨-, -, hgrids, -⟩ := broadcast_extent hop (.array []) (.array [.list [.int 1], .list [.int 2]]) (Or.inl rfl)
  obtain ⟨rows, hrows, hgrid, hplaces⟩ := hgrids 1 0 2 1 ⟨rfl, by simp [rowsOf]⟩ ⟨rfl, by simp [rowsOf, allRows?]⟩
  obtain ⟨v, hv, hpair⟩ := hplaces 1 (by decide) 0 (by decide)
  obtain ⟨hfails, -⟩ :=
    broadcast_extent hop (.array [.list [.int 1], .list [.int 2, .int 3]]) (.single (.int 5)) (Or.inl rfl)
  refine ⟨⟨rows, hrows, hgrid, ?_⟩, hfails.mpr (Or.inl ?_)⟩
  · rw [hv, ← Except.ok.inj hpair]
    rfl
  · rintro ⟨width, hwidth⟩
    have hone := hwidth [.int 1] (by simp [rowsOf, allRows?])
    have htwo := hwidth [.int 2, .int 3] (by simp [rowsOf, allRows?])
    exact absurd (hone.trans htwo.symm) (by decide)

end GridCalc
