import GridCalc.Proofs.Reference.Cells
import GridCalc.Proofs.Workbook.Reading

/-!
# References outside of the limits

A cell is not found iff it lies outside of the limits (`SheetReader.misses_cell_iff`). Of a range only the far corner
is looked for: the range is not found iff that cell is not (`SheetReader.misses_range_iff`). So a range that reaches
above the first row is read although some of its cells are not found (`SheetReader.misses_cell_above`), and one that
starts in front of the first column is refused for the number of that column.

Main statement: `SheetReader.read_range_of_cells`.
-/

namespace GridCalc

/-! ## Blocks of cells -/

theorem mem_intervalFrom {low high n : Int} : n ∈ intervalFrom low high ↔ low ≤ n ∧ n ≤ high := by
  simp only [intervalFrom, List.mem_map, List.mem_range]
  constructor
  · rintro ⟨i, hi, rfl⟩
    omega
  · rintro ⟨hlow, hhigh⟩
    exact ⟨(n - low).toNat, by omega, by omega⟩

namespace Worksheet

variable (sheet : Worksheet)

/-- A block of cells is read if each of its cells is. -/
theorem exists_rows (rows cols : Int × Int)
    (h : ∀ row col, rows.1 ≤ row → row ≤ rows.2 → cols.1 ≤ col → col ≤ cols.2 →
      ∃ v, sheet.readCell row col = .ok v) : ∃ grid, sheet.readRows rows cols = .ok grid := by
  refine exists_mapM_of_forall fun row hrow => exists_mapM_of_forall fun col hcol => ?_
  rw [mem_intervalFrom] at hrow hcol
  exact h row col hrow.1 hrow.2 hcol.1 hcol.2

end Worksheet

theorem Column.exists_letters {n : Int} (h : 1 ≤ n) (h' : n ≤ lastNamed) : ∃ s, Column.letters n = .ok s :=
  ⟨_, if_pos ⟨h, h'⟩⟩

/-! ## Ranges between two corners -/

namespace RangeReference

variable {r : RangeReference} {a b c d : Int}

theorem rowsOn_of_ends (ha : r.first.row = some a) (hb : r.last.row = some b) (sheet : Worksheet) :
    r.rowsOn sheet = (min a b, max a b) := by
  rw [rowsOn, ha, hb]
  rfl

theorem colsOn_of_ends (hc : r.first.col = some c) (hd : r.last.col = some d) (sheet : Worksheet) :
    r.colsOn sheet = (min c d, max c d) := by
  rw [colsOn, hc, hd]
  rfl

theorem writable_corners (ha : r.first.row = some a) (hb : r.last.row = some b) (hc : r.first.col = some c)
    (hd : r.last.col = some d) (hw : (Reference.range r).writable = true) :
    (Number.intWritable (min a b) = true ∧ Number.intWritable (max a b) = true) ∧
      Number.intWritable (min c d) = true ∧ Number.intWritable (max c d) = true := by
  have hbox := Reference.writable_box hw
  rw [Box.writable_iff, Reference.box, ha, hb, hc, hd] at hbox
  simpa [Axis.Writable, Axis.ofEnds, Axis.low?, Axis.high?] using hbox

theorem mem_cells_of_ends (ha : r.first.row = some a) (hb : r.last.row = some b) (hc : r.first.col = some c)
    (hd : r.last.col = some d) (row col : Int) : (row, col) ∈ (Reference.range r).cells ↔
      (min a b ≤ row ∧ row ≤ max a b) ∧ min c d ≤ col ∧ col ≤ max c d := by
  simp only [Reference.cells, ha, hb, hc, hd, coordinatesBetween, Set.mem_prod, Set.uIcc, Set.mem_Icc]

end RangeReference

namespace SheetReader

variable (reader : SheetReader)

/-- Reading finds no such reference. -/
def Misses (ref : Reference) : Prop := ∃ cause, reader.read ref = .error (.referenceNotFound cause)

variable {reader} {sheet : Worksheet}

theorem not_notFound_of_endsIn {α : Type} {P : α → Prop} {x : Except Fault α} (h : EndsIn P Fault.IsInvalid x) :
    ¬∃ cause, x = .error (.referenceNotFound cause) := by
  rintro ⟨cause, rfl⟩
  obtain ⟨invalid, hinvalid⟩ := h
  cases hinvalid

theorem read_cell_eq {r : CellReference} (hsheet : reader.sheetOf r.sheet = .ok (.worksheet sheet)) :
    reader.read (.cell r) =
      reader.checkBounds r.row r.col (.worksheet sheet) >>= fun _ => sheet.readCell r.row r.col := by
  unfold read
  rw [show (Reference.cell r).sheet = r.sheet from rfl, hsheet]
  rfl

theorem read_cell_of_inBounds {r : CellReference} (hsheet : reader.sheetOf r.sheet = .ok (.worksheet sheet))
    (hin : reader.inBounds r.row r.col = true) : reader.read (.cell r) = sheet.readCell r.row r.col := by
  rw [read_cell_eq hsheet, (reader.checkBounds_eq_ok_iff (u := ())).mpr hin, ok_bind]

theorem read_range_eq {r : RangeReference} (hsheet : reader.sheetOf r.sheet = .ok (.worksheet sheet)) :
    reader.read (.range r) =
      reader.checkBounds (r.rowsOn sheet).2 (r.colsOn sheet).2 (.worksheet sheet) >>= fun _ =>
        Column.letters (r.colsOn sheet).1 >>= fun _ => Column.letters (r.colsOn sheet).2 >>= fun _ =>
          sheet.readRows (r.rowsOn sheet) (r.colsOn sheet) >>= fun grid => .ok (Rows.toValue grid) := by
  unfold read
  rw [show (Reference.range r).sheet = r.sheet from rfl, hsheet]
  rfl

/-- Of a range inside the limits its rows are read. -/
theorem read_range_of_limits {r : RangeReference} (hnamed : reader.maxCol ≤ Column.lastNamed)
    (hsheet : reader.sheetOf r.sheet = .ok (.worksheet sheet))
    (hrows : 1 ≤ (r.rowsOn sheet).2 ∧ (r.rowsOn sheet).2 ≤ reader.maxRow)
    (hcols : 1 ≤ (r.colsOn sheet).1 ∧ (r.colsOn sheet).1 ≤ (r.colsOn sheet).2 ∧
      (r.colsOn sheet).2 ≤ reader.maxCol) :
    reader.read (.range r) = Rows.toValue <$> sheet.readRows (r.rowsOn sheet) (r.colsOn sheet) := by
  have hin : reader.inBounds (r.rowsOn sheet).2 (r.colsOn sheet).2 = true := by
    simp only [inBounds, Bool.and_eq_true, decide_eq_true_eq]
    omega
  obtain ⟨s, hs⟩ := Column.exists_letters (n := (r.colsOn sheet).1) (by omega) (by omega)
  obtain ⟨t, ht⟩ := Column.exists_letters (n := (r.colsOn sheet).2) (by omega) (by omega)
  rw [read_range_eq hsheet, (reader.checkBounds_eq_ok_iff (u := ())).mpr hin, hs, ht]
  cases sheet.readRows (r.rowsOn sheet) (r.colsOn sheet) <;> rfl

theorem checkBounds_of_outside {row col : Int} (hrow : Number.intWritable row = true)
    (hcol : Number.intWritable col = true) (h : reader.inBounds row col = false) (sheet : Sheet) :
    reader.checkBounds row col sheet = .error (.referenceNotFound (.outside row col sheet.title)) := by
  have hw : (Fault.referenceNotFound (.outside row col sheet.title)).writable = true := by
    simp [Fault.writable, hrow, hcol]
  rw [checkBounds, h, Fault.raise, Fault.reported, if_pos hw]
  rfl

theorem not_inBounds_of_misses {r : CellReference} (hsheet : reader.sheetOf r.sheet = .ok (.worksheet sheet))
    (h : reader.Misses (.cell r)) : reader.inBounds r.row r.col = false := by
  rw [Misses, read_cell_eq hsheet] at h
  cases hin : reader.inBounds r.row r.col with
  | false => rfl
  | true =>
    rw [(reader.checkBounds_eq_ok_iff (u := ())).mpr hin, ok_bind] at h
    exact absurd h (not_notFound_of_endsIn (sheet.endsIn_readCell r.row r.col))

/-- A cell is not found iff it lies outside of the limits. -/
theorem misses_cell_iff {r : CellReference} (hsheet : reader.sheetOf r.sheet = .ok (.worksheet sheet))
    (hrow : Number.intWritable r.row = true) (hcol : Number.intWritable r.col = true) :
    reader.Misses (.cell r) ↔ reader.inBounds r.row r.col = false :=
  ⟨not_inBounds_of_misses hsheet, fun h =>
    ⟨_, by rw [read_cell_eq hsheet, checkBounds_of_outside hrow hcol h, error_bind]⟩⟩

section

variable {r : RangeReference} {a b c d : Int} (hsheet : reader.sheetOf r.sheet = .ok (.worksheet sheet))
  (ha : r.first.row = some a) (hb : r.last.row = some b) (hc : r.first.col = some c) (hd : r.last.col = some d)
include hsheet ha hb hc hd

theorem read_block_eq : reader.read (.range r) =
    reader.checkBounds (max a b) (max c d) (.worksheet sheet) >>= fun _ =>
      Column.letters (min c d) >>= fun _ => Column.letters (max c d) >>= fun _ =>
        sheet.readRows (min a b, max a b) (min c d, max c d) >>= fun grid => .ok (Rows.toValue grid) := by
  rw [read_range_eq hsheet, r.rowsOn_of_ends ha hb, r.colsOn_of_ends hc hd]

/-- Of a range only the far corner is looked for. -/
theorem misses_range_iff (hw : (Reference.range r).writable = true) :
    reader.Misses (.range r) ↔ reader.inBounds (max a b) (max c d) = false := by
  obtain ⟨hrow, hcol⟩ := RangeReference.writable_corners ha hb hc hd hw
  rw [Misses, read_block_eq hsheet ha hb hc hd]
  cases hin : reader.inBounds (max a b) (max c d) with
  | false => simp [checkBounds_of_outside hrow.2 hcol.2 hin]
  | true =>
    rw [(reader.checkBounds_eq_ok_iff (u := ())).mpr hin, ok_bind]
    have hends : EndsIn (fun _ => True) Fault.IsInvalid (Column.letters (min c d) >>= fun _ =>
        Column.letters (max c d) >>= fun _ => sheet.readRows (min a b, max a b) (min c d, max c d) >>= fun grid =>
          .ok (Rows.toValue grid)) :=
      (Column.endsIn_letters _).bind fun _ _ => (Column.endsIn_letters _).bind fun _ _ =>
        (sheet.endsIn_readRows _ _).bind fun _ _ => trivial
    simpa using not_notFound_of_endsIn hends

/-- A range of columns without a name is refused for the first of them. -/
theorem read_range_of_low_column (hw : (Reference.range r).writable = true)
    (hin : reader.inBounds (max a b) (max c d) = true) (hlow : min c d < 1) :
    reader.read (.range r) = .error (.invalid (.columnNumber (min c d))) := by
  obtain ⟨-, hcol, -⟩ := RangeReference.writable_corners ha hb hc hd hw
  have hwritable : (Fault.invalid (.columnNumber (min c d))).writable = true := hcol
  rw [read_block_eq hsheet ha hb hc hd, (reader.checkBounds_eq_ok_iff (u := ())).mpr hin, ok_bind, Column.letters,
    if_neg (by omega), Fault.raise, Fault.reported, if_pos hwritable]
  rfl

/-- A range is read if each of its cells is. -/
theorem exists_grid_of_cells (hnamed : reader.maxCol ≤ Column.lastNamed)
    (hcells : ∀ cell : CellReference, cell.sheet = r.sheet → (cell.row, cell.col) ∈ (Reference.range r).cells →
      ∃ v, reader.read (.cell cell) = .ok v) :
    ∃ grid : Rows, reader.read (.range r) = .ok grid.toValue ∧
      grid.IsGrid (max a b - min a b + 1).toNat (max c d - min c d + 1).toNat := by
  have hread : ∀ row col, min a b ≤ row → row ≤ max a b → min c d ≤ col → col ≤ max c d →
      reader.inBounds row col = true ∧ ∃ v, sheet.readCell row col = .ok v := by
    intro row col hrow hrow' hcol hcol'
    have hmem := (r.mem_cells_of_ends ha hb hc hd row col).mpr ⟨⟨hrow, hrow'⟩, hcol, hcol'⟩
    obtain ⟨v, hv⟩ := hcells ⟨col, row, r.sheet, none⟩ rfl hmem
    obtain ⟨sheet', hsheet', hin, hcell⟩ := reader.read_cell_eq_ok_iff.mp hv
    cases hsheet.symm.trans hsheet'
    exact ⟨hin, v, hcell⟩
  obtain ⟨hnear, -⟩ := hread (min a b) (min c d) (by omega) (by omega) (by omega) (by omega)
  obtain ⟨hfar, -⟩ := hread (max a b) (max c d) (by omega) (by omega) (by omega) (by omega)
  simp only [inBounds, Bool.and_eq_true, decide_eq_true_eq] at hnear hfar
  obtain ⟨grid, hgrid⟩ := sheet.exists_rows (min a b, max a b) (min c d, max c d) fun row col hrow hrow' hcol hcol' =>
    (hread row col hrow hrow' hcol hcol').2
  refine ⟨grid, ?_, (Worksheet.isGrid_of_readRows hgrid).1⟩
  have hrows := r.rowsOn_of_ends ha hb sheet
  have hcols := r.colsOn_of_ends hc hd sheet
  rw [read_range_of_limits hnamed hsheet (by rw [hrows]; omega) (by rw [hcols]; omega), hrows, hcols, hgrid]
  rfl

end

/-- A range between two corners is not found iff the cell at its far corner is not. Where no row and no column of it
lies in front of the first one, that is so iff one of its cells is not found. A range that is found is refused for its
first column if that lies in front of the first one, and is read if each of its cells is. -/
theorem read_range_of_cells (hnamed : reader.maxCol ≤ Column.lastNamed) {r : RangeReference} {a b c d : Int}
    (hsheet : reader.sheetOf r.sheet = .ok (.worksheet sheet)) (ha : r.first.row = some a) (hb : r.last.row = some b)
    (hc : r.first.col = some c) (hd : r.last.col = some d) (hw : (Reference.range r).writable = true) :
    (reader.Misses (.range r) ↔ reader.Misses (.cell ⟨max c d, max a b, r.sheet, none⟩)) ∧
    (1 ≤ min a b → 1 ≤ min c d → (reader.Misses (.range r) ↔ ∃ cell : CellReference, cell.sheet = r.sheet ∧
      (cell.row, cell.col) ∈ (Reference.range r).cells ∧ reader.Misses (.cell cell))) ∧
    (¬reader.Misses (.range r) → min c d < 1 →
      reader.read (.range r) = .error (.invalid (.columnNumber (min c d)))) ∧
    ((∀ cell : CellReference, cell.sheet = r.sheet → (cell.row, cell.col) ∈ (Reference.range r).cells →
      ∃ v, reader.read (.cell cell) = .ok v) → ∃ grid : Rows, reader.read (.range r) = .ok grid.toValue ∧
        grid.IsGrid (max a b - min a b + 1).toNat (max c d - min c d + 1).toNat) := by
  have hcorner : reader.Misses (.range r) ↔ reader.Misses (.cell ⟨max c d, max a b, r.sheet, none⟩) := by
    obtain ⟨hrow, hcol⟩ := RangeReference.writable_corners ha hb hc hd hw
    rw [misses_range_iff hsheet ha hb hc hd hw,
      misses_cell_iff (r := ⟨max c d, max a b, r.sheet, none⟩) hsheet hrow.2 hcol.2]
  have hmem := r.mem_cells_of_ends ha hb hc hd
  refine ⟨hcorner, fun hrow hcol => ⟨fun hmisses => ?_, fun ⟨cell, hcell, hin, hmisses⟩ => ?_⟩, fun hfound hlow => ?_,
    exists_grid_of_cells hsheet ha hb hc hd hnamed⟩
  · exact ⟨_, rfl, (hmem (max a b) (max c d)).mpr (by omega), hcorner.mp hmisses⟩
  · rw [misses_range_iff hsheet ha hb hc hd hw]
    rw [hmem] at hin
    have hout := not_inBounds_of_misses (by rw [hcell]; exact hsheet) hmisses
    -- a cell outside of the limits and not in front of them lies beyond them, and so does the far corner
    simp only [inBounds, Bool.and_eq_false_iff, decide_eq_false_iff_not] at hout ⊢
    omega
  · rw [misses_range_iff hsheet ha hb hc hd hw, Bool.not_eq_false] at hfound
    exact read_range_of_low_column hsheet ha hb hc hd hw hfound hlow

/-- A sheet that holds 7 in its first cell. -/
def sevenSheet : Worksheet := ⟨"Data", [((1, 1), .number (.int 7))]⟩

def sevenReader : SheetReader where
  workbook := { sheets := [.worksheet sevenSheet], active := 0 }

/-- The cells of one column between two rows. -/
def columnBlock (col first last : Int) : RangeReference :=
  ⟨⟨some col, some first, none⟩, ⟨some col, some last, none⟩, none, none⟩

/-- A range that reaches below the last row of the grid. -/
theorem read_range_of_cells_below :
    sevenReader.maxCol ≤ Column.lastNamed ∧ sevenReader.sheetOf none = .ok (.worksheet sevenSheet) ∧
      (Reference.range (columnBlock 1 (gridRows + 1) 1)).writable = true ∧
      sevenReader.Misses (.range (columnBlock 1 (gridRows + 1) 1)) := by
  have hnamed : sevenReader.maxCol ≤ Column.lastNamed := by decide
  have hsheet : sevenReader.sheetOf none = .ok (.worksheet sevenSheet) := rfl
  have hw : (Reference.range (columnBlock 1 (gridRows + 1) 1)).writable = true := by decide +kernel
  have hcorner := (read_range_of_cells hnamed (r := columnBlock 1 (gridRows + 1) 1) hsheet rfl rfl rfl rfl hw).1
  exact ⟨hnamed, hsheet, hw, hcorner.mpr ((misses_cell_iff hsheet (by decide +kernel) (by decide +kernel)).mpr rfl)⟩

/-- The cell above the first one is not found, but a range from there is read. -/
theorem misses_cell_above : sevenReader.sheetOf none = .ok (.worksheet sevenSheet) ∧
    ((0, 1) : Int × Int) ∈ (Reference.range (columnBlock 1 0 1)).cells ∧
    sevenReader.Misses (.cell ⟨1, 0, none, none⟩) ∧
    sevenReader.read (.range (columnBlock 1 0 1)) = .ok (Rows.toValue [[.empty], [.int 7]]) := by
  have hsheet : sevenReader.sheetOf none = .ok (.worksheet sevenSheet) := rfl
  refine ⟨hsheet, ?_, (misses_cell_iff hsheet (by decide +kernel) (by decide +kernel)).mpr rfl, rfl⟩
  exact ((columnBlock 1 0 1).mem_cells_of_ends rfl rfl rfl rfl 0 1).mpr (by decide)

end SheetReader

end GridCalc
