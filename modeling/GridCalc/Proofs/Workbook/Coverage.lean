import GridCalc.Proofs.Operator.Entrywise
import GridCalc.Proofs.Workbook.Bounds

/-!
# What references cover on a worksheet

On a worksheet an axis that a reference leaves open runs as far as the sheet is used, so that every reference covers a
block of cells there (`Reference.Covers`).

* `SheetReader.exists_cell_of_read_error`: a reference inside the limits fails as one of the cells that it covers does,
  so that it is read if each of them can be read (`SheetReader.exists_read_of_cells`).
* `Reference.shown?`: what was read of a reference shows something at exactly the cells that it covers, namely what is
  read of the cell (`SheetReader.shown?_of_covers`, `SheetReader.shown?_of_not_covers`).
* `Worksheet.readCell_of_unused`: there is nothing beyond the used rows and columns.
-/

namespace GridCalc

/-! ## Used rows and columns -/

namespace Worksheet

variable {sheet : Worksheet}

theorem le_foldl_max (coordinates : List Int) : ∀ {n m : Int}, m ≤ n ∨ m ∈ coordinates → m ≤ coordinates.foldl max n := by
  induction coordinates with
  | nil =>
    intro n m h
    simpa using h
  | cons k rest ih =>
    intro n m h
    refine ih ?_
    rcases h with h | h
    · exact Or.inl (le_trans h (le_max_left n k))
    · rcases List.mem_cons.mp h with rfl | h
      · exact Or.inl (le_max_right n m)
      · exact Or.inr h

theorem one_le_lastRow (sheet : Worksheet) : 1 ≤ sheet.lastRow := le_foldl_max _ (Or.inl (le_refl 1))

theorem one_le_lastCol (sheet : Worksheet) : 1 ≤ sheet.lastCol := le_foldl_max _ (Or.inl (le_refl 1))

/-- Beyond the used rows and columns no cell exists. -/
theorem get?_of_unused {row col : Int} (h : sheet.lastRow < row ∨ sheet.lastCol < col) :
    sheet.get? (row, col) = none := by
  refine List.lookup_eq_none_iff.mpr fun cell hcell => ?_
  have hrow : cell.1.1 ≤ sheet.lastRow := le_foldl_max _ (Or.inr (List.mem_map_of_mem hcell))
  have hcol : cell.1.2 ≤ sheet.lastCol := le_foldl_max _ (Or.inr (List.mem_map_of_mem hcell))
  have hne : (row, col) ≠ cell.1 := by
    intro heq
    rw [← heq] at hrow hcol
    simp only at hrow hcol
    omega
  simpa using hne

theorem readCell_of_unused {row col : Int} (h : sheet.lastRow < row ∨ sheet.lastCol < col) :
    sheet.readCell row col = .ok .empty := by
  rw [readCell, get?_of_unused h]

end Worksheet

theorem Axis.Ordered.clamp_le {a : Axis} {used : Int} (ha : a.Ordered) (hpos : 1 ≤ used) :
    (a.clamp used).1 ≤ (a.clamp used).2 := by
  cases a with
  | unbounded => exact hpos
  | between low high => exact ha
  | atLeast low | atMost high => exact ha.elim

namespace Reference

/-- The first and the last row of a reference on a worksheet. -/
def rowsOn (ref : Reference) (sheet : Worksheet) : Int × Int := ref.box.rows.clamp sheet.lastRow

/-- The first and the last column of a reference on a worksheet. -/
def colsOn (ref : Reference) (sheet : Worksheet) : Int × Int := ref.box.cols.clamp sheet.lastCol

/-- The reference covers a cell of a worksheet. -/
def Covers (ref : Reference) (sheet : Worksheet) (row col : Int) : Prop :=
  ((ref.rowsOn sheet).1 ≤ row ∧ row ≤ (ref.rowsOn sheet).2) ∧
    (ref.colsOn sheet).1 ≤ col ∧ col ≤ (ref.colsOn sheet).2

instance (ref : Reference) (sheet : Worksheet) (row col : Int) : Decidable (ref.Covers sheet row col) :=
  inferInstanceAs (Decidable ((_ ∧ _) ∧ _ ∧ _))

/-- The rows that were read of a reference: a cell is one row of one entry. -/
def rowsRead (ref : Reference) (v : Value) : Rows :=
  match ref, v with
  | range _, .list items => rowsOf items
  | _, v => [[v]]

/-- What was read of a reference, at a row and a column of the worksheet that it was read from. -/
def shown? (ref : Reference) (sheet : Worksheet) (v : Value) (row col : Int) : Option Value :=
  if (ref.rowsOn sheet).1 ≤ row ∧ (ref.colsOn sheet).1 ≤ col then
    (ref.rowsRead v).get? (row - (ref.rowsOn sheet).1).toNat (col - (ref.colsOn sheet).1).toNat
  else none

variable (ref : Reference) (sheet : Worksheet)

theorem rowsOn_le : (ref.rowsOn sheet).1 ≤ (ref.rowsOn sheet).2 := ref.ordered_box.rows.clamp_le sheet.one_le_lastRow

theorem colsOn_le : (ref.colsOn sheet).1 ≤ (ref.colsOn sheet).2 := ref.ordered_box.cols.clamp_le sheet.one_le_lastCol

end Reference

namespace SheetReader

variable {reader : SheetReader} {ref : Reference} {sheet : Worksheet} {v : Value}

/-! ## References that can be read -/

/-- What a reference inside the limits fails with is what a cell that it covers fails with. -/
theorem exists_cell_of_read_error (hnamed : reader.maxCol ≤ Column.lastNamed)
    (hsheet : reader.sheetOf ref.sheet = .ok (.worksheet sheet))
    (hrows : 1 ≤ (ref.rowsOn sheet).1 ∧ (ref.rowsOn sheet).2 ≤ reader.maxRow)
    (hcols : 1 ≤ (ref.colsOn sheet).1 ∧ (ref.colsOn sheet).2 ≤ reader.maxCol) {fault : Fault}
    (h : reader.read ref = .error fault) :
    ∃ row col, ref.Covers sheet row col ∧ sheet.readCell row col = .error fault := by
  have hrow := ref.rowsOn_le sheet
  have hcol := ref.colsOn_le sheet
  cases ref with
  | cell r =>
    have hin : reader.inBounds r.row r.col = true := by
      simp only [inBounds, Bool.and_eq_true, decide_eq_true_eq]
      exact ⟨hrows, hcols⟩
    rw [read_cell_of_inBounds hsheet hin] at h
    exact ⟨r.row, r.col, ⟨⟨le_refl _, le_refl _⟩, le_refl _, le_refl _⟩, h⟩
  | range r =>
    rw [read_range_of_limits hnamed hsheet ⟨le_trans hrows.1 hrow, hrows.2⟩ ⟨hcols.1, hcol, hcols.2⟩,
      map_eq_error_iff] at h
    obtain ⟨row, hrow, h, -⟩ := exists_first_of_mapM_intervalFrom h
    obtain ⟨col, hcol, h, -⟩ := exists_first_of_mapM_intervalFrom h
    exact ⟨row, col, ⟨hrow, hcol⟩, h⟩

/-- A reference inside the limits is read if each cell that it covers can be read. -/
theorem exists_read_of_cells (hnamed : reader.maxCol ≤ Column.lastNamed)
    (hsheet : reader.sheetOf ref.sheet = .ok (.worksheet sheet))
    (hrows : 1 ≤ (ref.rowsOn sheet).1 ∧ (ref.rowsOn sheet).2 ≤ reader.maxRow)
    (hcols : 1 ≤ (ref.colsOn sheet).1 ∧ (ref.colsOn sheet).2 ≤ reader.maxCol)
    (hcells : ∀ row col, ref.Covers sheet row col → ∃ x, sheet.readCell row col = .ok x) :
    ∃ v, reader.read ref = .ok v := by
  cases h : reader.read ref with
  | ok v => exact ⟨v, rfl⟩
  | error fault =>
    obtain ⟨row, col, hcovers, hfault⟩ := exists_cell_of_read_error hnamed hsheet hrows hcols h
    obtain ⟨x, hx⟩ := hcells row col hcovers
    cases hx.symm.trans hfault

/-! ## What was read -/

/-- Only worksheets are read. -/
theorem exists_worksheet_of_read (h : reader.read ref = .ok v) :
    ∃ sheet, reader.sheetOf ref.sheet = .ok (.worksheet sheet) := by
  cases ref with
  | cell r =>
    obtain ⟨sheet, hsheet, -, -⟩ := reader.read_cell_eq_ok_iff.mp h
    exact ⟨sheet, hsheet⟩
  | range r =>
    obtain ⟨sheet, -, hsheet, -, -, -⟩ := reader.exists_grid_of_read h
    exact ⟨sheet, hsheet⟩

/-- A reference that was read ends inside the limits, and its rows are a grid of what is read of the cells there. -/
theorem rows_of_read (h : reader.read ref = .ok v) (hsheet : reader.sheetOf ref.sheet = .ok (.worksheet sheet)) :
    reader.inBounds (ref.rowsOn sheet).2 (ref.colsOn sheet).2 = true ∧
    (ref.rowsRead v).IsGrid ((ref.rowsOn sheet).2 - (ref.rowsOn sheet).1 + 1).toNat
      ((ref.colsOn sheet).2 - (ref.colsOn sheet).1 + 1).toNat ∧
    ∀ i j : Nat, i < ((ref.rowsOn sheet).2 - (ref.rowsOn sheet).1 + 1).toNat →
      j < ((ref.colsOn sheet).2 - (ref.colsOn sheet).1 + 1).toNat → ∃ x, (ref.rowsRead v).get? i j = some x ∧
        sheet.readCell ((ref.rowsOn sheet).1 + i) ((ref.colsOn sheet).1 + j) = .ok x := by
  have hrows := ref.rowsOn_le sheet
  cases ref with
  | cell r =>
    obtain ⟨sheet', hsheet', hin, hcell⟩ := reader.read_cell_eq_ok_iff.mp h
    cases hsheet.symm.trans hsheet'
    have hrow : (Reference.cell r).rowsOn sheet = (r.row, r.row) := rfl
    have hcol : (Reference.cell r).colsOn sheet = (r.col, r.col) := rfl
    have hone : (Reference.cell r).rowsRead v = [[v]] := rfl
    simp only [hrow, hcol, hone, Int.sub_self, Int.zero_add, Int.toNat_one, Nat.lt_one_iff]
    refine ⟨hin, ⟨rfl, by simp⟩, ?_⟩
    rintro i j rfl rfl
    exact ⟨v, rfl, by simpa using hcell⟩
  | range r =>
    obtain ⟨sheet', grid, hsheet', hin, hread, rfl⟩ := reader.exists_grid_of_read h
    cases hsheet.symm.trans hsheet'
    obtain ⟨hgrid, hentries⟩ := Worksheet.isGrid_of_readRows hread
    have hne : grid ≠ [] := by
      rintro rfl
      have hheight : 0 = ((r.rowsOn sheet).2 - (r.rowsOn sheet).1 + 1).toNat := hgrid.height
      change (r.rowsOn sheet).1 ≤ (r.rowsOn sheet).2 at hrows
      omega
    have hrowsRead : (Reference.range r).rowsRead (Rows.toValue grid) = grid := rowsOf_map_list hne
    rw [hrowsRead]
    exact ⟨hin, hgrid, hentries⟩

/-- A reference shows at a cell that it covers what is read of the cell. -/
theorem shown?_of_covers (h : reader.read ref = .ok v) (hsheet : reader.sheetOf ref.sheet = .ok (.worksheet sheet))
    {row col : Int} (hcovers : ref.Covers sheet row col) :
    ∃ x, ref.shown? sheet v row col = some x ∧ sheet.readCell row col = .ok x := by
  obtain ⟨⟨hrow, hrow'⟩, hcol, hcol'⟩ := hcovers
  obtain ⟨-, -, hentries⟩ := rows_of_read h hsheet
  obtain ⟨x, hx, hcell⟩ := hentries (row - (ref.rowsOn sheet).1).toNat (col - (ref.colsOn sheet).1).toNat
    (by omega) (by omega)
  have hrow'' : (ref.rowsOn sheet).1 + (row - (ref.rowsOn sheet).1).toNat = row := by omega
  have hcol'' : (ref.colsOn sheet).1 + (col - (ref.colsOn sheet).1).toNat = col := by omega
  rw [hrow'', hcol''] at hcell
  exact ⟨x, by rw [Reference.shown?, if_pos ⟨hrow, hcol⟩, hx], hcell⟩

/-- A reference shows nothing at a cell that it does not cover. -/
theorem shown?_of_not_covers (h : reader.read ref = .ok v) (hsheet : reader.sheetOf ref.sheet = .ok (.worksheet sheet))
    {row col : Int} (hcovers : ¬ref.Covers sheet row col) : ref.shown? sheet v row col = none := by
  obtain ⟨-, hgrid, -⟩ := rows_of_read h hsheet
  unfold Reference.shown?
  split
  · rename_i hnear
    refine hgrid.get?_eq_none ?_
    by_contra hinside
    exact hcovers (by unfold Reference.Covers; omega)
  · rfl

/-- A reference covers the cells at which it shows something. -/
theorem covers_iff_shown? (h : reader.read ref = .ok v) (hsheet : reader.sheetOf ref.sheet = .ok (.worksheet sheet))
    {row col : Int} : ref.Covers sheet row col ↔ ∃ x, ref.shown? sheet v row col = some x := by
  constructor
  · intro hcovers
    obtain ⟨x, hx, -⟩ := shown?_of_covers h hsheet hcovers
    exact ⟨x, hx⟩
  · rintro ⟨x, hx⟩
    by_contra hcovers
    rw [shown?_of_not_covers h hsheet hcovers] at hx
    cases hx

end SheetReader

end GridCalc
