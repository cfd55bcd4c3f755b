import GridCalc.Proofs.Workbook.Bounds

/-!
# Blocks read cell by cell

A range between two corners inside the limits is read row by row, each row cell by cell
(`SheetReader.read_range_eq_mapM`), so that the first cell that cannot be read is what the whole range fails with. In
which order an axis is given does not matter (`SheetReader.read_swapRows`, `SheetReader.read_swapCols`).

Main statement: `SheetReader.read_block`.
-/

namespace GridCalc

/-! ## Corners -/

theorem Axis.ofEnds_comm (s t : Option Int) : ofEnds s t = ofEnds t s := by
  rcases s with _ | a
  · cases t <;> rfl
  · cases t with
    | none => rfl
    | some b => simp only [ofEnds, min_comm a b, max_comm a b]

namespace RangeReference

/-- The range with the rows of its ends exchanged. -/
def swapRows (r : RangeReference) : RangeReference :=
  { r with first := { r.first with row := r.last.row }, last := { r.last with row := r.first.row } }

/-- The range with the columns of its ends exchanged. -/
def swapCols (r : RangeReference) : RangeReference :=
  { r with first := { r.first with col := r.last.col }, last := { r.last with col := r.first.col } }

theorem rowsOn_swapRows (r : RangeReference) (sheet : Worksheet) : r.swapRows.rowsOn sheet = r.rowsOn sheet := by
  rw [rowsOn, swapRows, Axis.ofEnds_comm]
  rfl

theorem colsOn_swapCols (r : RangeReference) (sheet : Worksheet) : r.swapCols.colsOn sheet = r.colsOn sheet := by
  rw [colsOn, swapCols, Axis.ofEnds_comm]
  rfl

end RangeReference

namespace SheetReader

variable {reader : SheetReader} {sheet : Worksheet}

/-- What is read of a range depends on its sheet and on the rows and columns that it has on a worksheet. -/
theorem read_range_congr (reader : SheetReader) {r r' : RangeReference} (hsheet : r'.sheet = r.sheet)
    (hrows : ∀ sheet, r'.rowsOn sheet = r.rowsOn sheet) (hcols : ∀ sheet, r'.colsOn sheet = r.colsOn sheet) :
    reader.read (.range r') = reader.read (.range r) := by
  have hread : ∀ target, reader.readRange r' target = reader.readRange r target := by
    intro target
    cases target with
    | chart title => rfl
    | worksheet sheet =>
      have hrow := hrows sheet
      have hcol := hcols sheet
      unfold RangeReference.rowsOn at hrow
      unfold RangeReference.colsOn at hcol
      simp only [readRange, hrow, hcol]
  show (reader.sheetOf r'.sheet >>= fun target => reader.readRange r' target) =
    (reader.sheetOf r.sheet >>= fun target => reader.readRange r target)
  simp only [hsheet, hread]

theorem read_swapRows (reader : SheetReader) (r : RangeReference) :
    reader.read (.range r.swapRows) = reader.read (.range r) :=
  read_range_congr reader rfl r.rowsOn_swapRows fun _ => rfl

theorem read_swapCols (reader : SheetReader) (r : RangeReference) :
    reader.read (.range r.swapCols) = reader.read (.range r) :=
  read_range_congr reader rfl (fun _ => rfl) r.colsOn_swapCols

/-! ## Cells -/

section

variable {r : RangeReference} {a b c d : Int} (hnamed : reader.maxCol ≤ Column.lastNamed)
  (hsheet : reader.sheetOf r.sheet = .ok (.worksheet sheet)) (ha : r.first.row = some a) (hb : r.last.row = some b)
  (hc : r.first.col = some c) (hd : r.last.col = some d) (hfirst : reader.inBounds a c = true)
  (hlast : reader.inBounds b d = true)
include hnamed hsheet ha hb hc hd hfirst hlast

/-- A range is read row by row, each row cell by cell. -/
theorem read_range_eq_mapM : reader.read (.range r) =
    Rows.toValue <$> (intervalFrom (min a b) (max a b)).mapM fun row =>
      (intervalFrom (min c d) (max c d)).mapM fun col => reader.read (.cell ⟨col, row, r.sheet, none⟩) := by
  simp only [inBounds, Bool.and_eq_true, decide_eq_true_eq] at hfirst hlast
  have hin : ∀ row ∈ intervalFrom (min a b) (max a b), ∀ col ∈ intervalFrom (min c d) (max c d),
      reader.inBounds row col = true := by
    intro row hrow col hcol
    rw [mem_intervalFrom] at hrow hcol
    simp only [inBounds, Bool.and_eq_true, decide_eq_true_eq]
    omega
  have hrows := r.rowsOn_of_ends ha hb sheet
  have hcols := r.colsOn_of_ends hc hd sheet
  have hcells : sheet.readRows (min a b, max a b) (min c d, max c d) =
      (intervalFrom (min a b) (max a b)).mapM fun row => (intervalFrom (min c d) (max c d)).mapM fun col =>
        reader.read (.cell ⟨col, row, r.sheet, none⟩) := by
    refine mapM_congr fun row hrow => mapM_congr fun col hcol => ?_
    exact (read_cell_of_inBounds (r := ⟨col, row, r.sheet, none⟩) hsheet (hin row hrow col hcol)).symm
  rw [read_range_of_limits hnamed hsheet (by rw [hrows]; omega) (by rw [hcols]; omega), hrows, hcols, hcells]

/-- A range whose cells can all be read is read as the grid of them. -/
theorem exists_grid_of_block
    (hcells : ∀ row col, min a b ≤ row → row ≤ max a b → min c d ≤ col → col ≤ max c d →
      ∃ v, reader.read (.cell ⟨col, row, r.sheet, none⟩) = .ok v) :
    ∃ grid : Rows, reader.read (.range r) = .ok grid.toValue ∧
      grid.IsGrid ((a - b).natAbs + 1) ((c - d).natAbs + 1) ∧
      ∀ i j : Nat, i ≤ (a - b).natAbs → j ≤ (c - d).natAbs → ∃ v, grid.get? i j = some v ∧
        reader.read (.cell ⟨min c d + j, min a b + i, r.sheet, none⟩) = .ok v := by
  obtain ⟨grid, hgrid⟩ : ∃ grid : Rows, ((intervalFrom (min a b) (max a b)).mapM fun row =>
      (intervalFrom (min c d) (max c d)).mapM fun col => reader.read (.cell ⟨col, row, r.sheet, none⟩)) = .ok grid := by
    refine exists_mapM_of_forall fun row hrow => exists_mapM_of_forall fun col hcol => ?_
    rw [mem_intervalFrom] at hrow hcol
    exact hcells row col hrow.1 hrow.2 hcol.1 hcol.2
  have hheight : (max a b - min a b + 1).toNat = (a - b).natAbs + 1 := by omega
  have hwidth : (max c d - min c d + 1).toNat = (c - d).natAbs + 1 := by omega
  obtain ⟨hsize, hentries⟩ := isGrid_of_mapM hgrid
  simp only [length_intervalFrom, getElem_intervalFrom, hheight, hwidth] at hsize hentries
  refine ⟨grid, ?_, hsize, fun i j hi hj => hentries i j (by omega) (by omega)⟩
  rw [read_range_eq_mapM hnamed hsheet ha hb hc hd hfirst hlast, hgrid]
  rfl

end

/-- The address of a cell does not matter when it is read. -/
theorem read_cell_congr (reader : SheetReader) {cell cell' : CellReference} (hsheet : cell'.sheet = cell.sheet)
    (hrow : cell'.row = cell.row) (hcol : cell'.col = cell.col) :
    reader.read (.cell cell') = reader.read (.cell cell) := by
  obtain ⟨col, row, title, address⟩ := cell
  obtain ⟨col', row', title', address'⟩ := cell'
  cases hsheet
  cases hrow
  cases hcol
  rfl

/-- A range between two corners inside the limits is read cell by cell, row after row: the first cell in this order
that cannot be read is what it fails with. If all its cells can be read, it is a grid of as many rows and columns as lie
between its corners, and shows at each place what is read of the cell there. The corners may exchange their rows or
their columns. -/
theorem read_block (hnamed : reader.maxCol ≤ Column.lastNamed) {r : RangeReference} {a b c d : Int}
    (hsheet : reader.sheetOf r.sheet = .ok (.worksheet sheet)) (ha : r.first.row = some a) (hb : r.last.row = some b)
    (hc : r.first.col = some c) (hd : r.last.col = some d) (hfirst : reader.inBounds a c = true)
    (hlast : reader.inBounds b d = true) :
    reader.read (.range r) = Rows.toValue <$> ((intervalFrom (min a b) (max a b)).mapM fun row =>
      (intervalFrom (min c d) (max c d)).mapM fun col => reader.read (.cell ⟨col, row, r.sheet, none⟩)) ∧
    ((∀ row col, min a b ≤ row → row ≤ max a b → min c d ≤ col → col ≤ max c d →
        ∃ v, reader.read (.cell ⟨col, row, r.sheet, none⟩) = .ok v) →
      ∃ grid : Rows, reader.read (.range r) = .ok grid.toValue ∧
        grid.IsGrid ((a - b).natAbs + 1) ((c - d).natAbs + 1) ∧
        ∀ i j : Nat, i ≤ (a - b).natAbs → j ≤ (c - d).natAbs → ∃ v, grid.get? i j = some v ∧
          ∀ cell : CellReference, cell.sheet = r.sheet → cell.row = min a b + i → cell.col = min c d + j →
            reader.read (.cell cell) = .ok v) ∧
    reader.read (.range r.swapRows) = reader.read (.range r) ∧
    reader.read (.range r.swapCols) = reader.read (.range r) := by
  refine ⟨read_range_eq_mapM hnamed hsheet ha hb hc hd hfirst hlast, fun hcells => ?_, reader.read_swapRows r,
    reader.read_swapCols r⟩
  obtain ⟨grid, hread, hsize, hentries⟩ := exists_grid_of_block hnamed hsheet ha hb hc hd hfirst hlast hcells
  refine ⟨grid, hread, hsize, fun i j hi hj => ?_⟩
  obtain ⟨v, hv, hcell⟩ := hentries i j hi hj
  exact ⟨v, hv, fun cell hcsheet hcrow hccol => (read_cell_congr reader hcsheet hcrow hccol).trans hcell⟩

/-- A sheet with texts in two opposite corners of a block and nothing in the others. -/
def cornerSheet : Worksheet := ⟨"Data", [((2, 3), .text "far"), ((1, 2), .text "#N/A")]⟩

def cornerReader : SheetReader where
  workbook := { sheets := [.worksheet cornerSheet], active := 0 }

/-- The block `C1:B2`, given by its corners on the other diagonal. -/
def cornerBlock : RangeReference :=
  ⟨⟨some 3, some 1, none⟩, ⟨some 2, some 2, none⟩, none, none⟩

theorem read_block_corners : cornerReader.maxCol ≤ Column.lastNamed ∧
    cornerReader.sheetOf none = .ok (.worksheet cornerSheet) ∧ cornerReader.inBounds 1 3 = true ∧
    cornerReader.inBounds 2 2 = true ∧
    (∀ row col, 1 ≤ row → row ≤ 2 → 2 ≤ col → col ≤ 3 → ∃ v, cornerReader.read (.cell ⟨col, row, none, none⟩) = .ok v) ∧
    cornerReader.read (.range cornerBlock) =
      .ok (Rows.toValue [[.error .notAvailable, .empty], [.empty, .text "far"]]) ∧
    (∃ grid : Rows, cornerReader.read (.range cornerBlock) = .ok grid.toValue ∧ grid.IsGrid 2 2) ∧
    cornerReader.read (.range cornerBlock.swapRows) = cornerReader.read (.range cornerBlock) := by
  have hnamed : cornerReader.maxCol ≤ Column.lastNamed := by decide
  have hsheet : cornerReader.sheetOf none = .ok (.worksheet cornerSheet) := rfl
  have hcells : ∀ row col, 1 ≤ row → row ≤ 2 → 2 ≤ col → col ≤ 3 →
      ∃ v, cornerReader.read (.cell ⟨col, row, none, none⟩) = .ok v := by
    intro row col hrow hrow' hcol hcol'
    obtain rfl | rfl : row = 1 ∨ row = 2 := by omega
    · obtain rfl | rfl : col = 2 ∨ col = 3 := by omega
      · exact ⟨_, rfl⟩
      · exact ⟨_, rfl⟩
    · obtain rfl | rfl : col = 2 ∨ col = 3 := by omega
      · exact ⟨_, rfl⟩
      · exact ⟨_, rfl⟩
  obtain ⟨-, hgrid, hrows, -⟩ := read_block hnamed (r := cornerBlock) hsheet rfl rfl rfl rfl rfl rfl
  obtain ⟨grid, hread, hsize, -⟩ := hgrid hcells
  exact ⟨hnamed, hsheet, rfl, rfl, hcells, rfl, ⟨grid, hread, hsize⟩, hrows⟩

/-- A sheet whose first cell cannot be read. -/
def unreadableReader : SheetReader where
  workbook := { sheets := [.worksheet ⟨"Data", [((1, 1), .decimal (.nan true))]⟩], active := 0 }

/-- A range inside the limits need not be a grid: its only cell stores a decimal that is no double. -/
theorem read_block_of_signaling : unreadableReader.maxCol ≤ Column.lastNamed ∧
    unreadableReader.sheetOf none = .ok (.worksheet ⟨"Data", [((1, 1), .decimal (.nan true))]⟩) ∧
    unreadableReader.inBounds 1 1 = true ∧
    unreadableReader.read (.range (columnBlock 1 1 1)) = .error (.invalid .signalingNaN) ∧
    ∀ grid : Rows, unreadableReader.read (.range (columnBlock 1 1 1)) ≠ .ok grid.toValue := by
  have hread : unreadableReader.read (.range (columnBlock 1 1 1)) = .error (.invalid .signalingNaN) := rfl
  refine ⟨by decide, rfl, rfl, hread, fun grid hgrid => ?_⟩
  rw [hread] at hgrid
  cases hgrid

end SheetReader

end GridCalc
