import GridCalc.Proofs.Workbook.Coverage

/-!
# Workbooks that agree

Two workbooks have the same layout if they differ in the contents of cells alone, and not in how far their sheets are
used (`SheetReader.SameLayout`). Then both find the same sheets, up to contents (`SheetReader.SameLayout.sheetOf`).

Main statement: `SheetReader.read_congr`. A reference is read alike from workbooks of the same layout that store the
same in the cells that it covers.
-/

namespace GridCalc

/-! ## Sheets -/

namespace Worksheet

variable {sheet sheet' : Worksheet}

/-- What is stored in a cell; a cell that does not exist stores nothing. -/
def stored (sheet : Worksheet) (position : CellPosition) : Content := (sheet.get? position).getD .empty

theorem readCell_eq_read_stored (sheet : Worksheet) (row col : Int) :
    sheet.readCell row col = (sheet.stored (row, col)).read := by
  unfold readCell stored
  cases sheet.get? (row, col) <;> rfl

theorem readRows_congr {rows cols : Int × Int}
    (h : ∀ row col, rows.1 ≤ row ∧ row ≤ rows.2 → cols.1 ≤ col ∧ col ≤ cols.2 →
      sheet'.stored (row, col) = sheet.stored (row, col)) : sheet'.readRows rows cols = sheet.readRows rows cols := by
  refine mapM_congr fun row hrow => mapM_congr fun col hcol => ?_
  rw [mem_intervalFrom] at hrow hcol
  rw [readCell_eq_read_stored, readCell_eq_read_stored, h row col hrow hcol]

end Worksheet

namespace Sheet

/-- Sheets of one kind and title; worksheets are used equally far. -/
inductive SameLayout : Sheet → Sheet → Prop
  | worksheet {sheet sheet' : Worksheet} : sheet'.title = sheet.title → sheet'.lastRow = sheet.lastRow →
      sheet'.lastCol = sheet.lastCol → SameLayout (.worksheet sheet) (.worksheet sheet')
  | chart (title : String) : SameLayout (.chart title) (.chart title)

variable {s s' : Sheet}

theorem SameLayout.refl (s : Sheet) : SameLayout s s := by
  cases s with
  | worksheet sheet => exact .worksheet rfl rfl rfl
  | chart title => exact .chart title

theorem SameLayout.title_eq (h : SameLayout s s') : s'.title = s.title := by
  cases h with
  | worksheet htitle => exact htitle
  | chart title => rfl

/-- Two searches for a sheet find sheets of the same layout, or fail alike. -/
inductive FoundAlike : Except Fault Sheet → Except Fault Sheet → Prop
  | found {s s' : Sheet} : s.SameLayout s' → FoundAlike (.ok s) (.ok s')
  | fault (fault : Fault) : FoundAlike (.error fault) (.error fault)

end Sheet

/-! ## Sheets of workbooks -/

theorem rel_getElem? {α β : Type} {R : α → β → Prop} {items : List α} {items' : List β}
    (h : List.Forall₂ R items items') (i : Nat) : Option.Rel R items[i]? items'[i]? := by
  induction h generalizing i with
  | nil => exact .none
  | cons hab _ ih =>
    cases i with
    | zero => exact .some hab
    | succ i => exact ih i

theorem Sheet.rel_find? {sheets sheets' : List Sheet} (h : List.Forall₂ SameLayout sheets sheets') (title : String) :
    Option.Rel SameLayout (sheets.find? (·.title == title)) (sheets'.find? (·.title == title)) := by
  induction h with
  | nil => exact .none
  | @cons s s' _ _ hs _ ih =>
    rw [List.find?_cons, List.find?_cons, hs.title_eq]
    cases s.title == title with
    | true => exact .some hs
    | false => exact ih

theorem Workbook.rel_activeSheet? {book book' : Workbook} (h : List.Forall₂ Sheet.SameLayout book.sheets book'.sheets)
    (hactive : book'.active = book.active) :
    Option.Rel Sheet.SameLayout book.activeSheet? book'.activeSheet? := by
  have hat : ∀ index : Int, Option.Rel Sheet.SameLayout (if index < 0 then none else book.sheets[index.toNat]?)
      (if index < 0 then none else book'.sheets[index.toNat]?) := by
    intro index
    split
    · exact .none
    · exact rel_getElem? h _
  unfold activeSheet?
  rw [hactive, h.length_eq]
  exact hat _

namespace SheetReader

/-- The workbooks differ in the contents of cells alone, and are read with the same settings. -/
structure SameLayout (reader reader' : SheetReader) : Prop where
  sheets : List.Forall₂ Sheet.SameLayout reader.workbook.sheets reader'.workbook.sheets
  active : reader'.workbook.active = reader.workbook.active
  current : reader'.current = reader.current
  maxRow : reader'.maxRow = reader.maxRow
  maxCol : reader'.maxCol = reader.maxCol

variable {reader reader' : SheetReader} {ref : Reference}

namespace SameLayout

variable (h : reader.SameLayout reader')
include h

theorem namedSheet (title : String) : Sheet.FoundAlike (reader.namedSheet title) (reader'.namedSheet title) := by
  have hfind := Sheet.rel_find? h.sheets title
  unfold SheetReader.namedSheet Workbook.find?
  generalize reader.workbook.sheets.find? (·.title == title) = found,
    reader'.workbook.sheets.find? (·.title == title) = found' at hfind ⊢
  cases hfind with
  | none => exact .fault _
  | some hs => exact .found hs

theorem activeSheet : Sheet.FoundAlike reader.activeSheet reader'.activeSheet := by
  have hactive := Workbook.rel_activeSheet? h.sheets h.active
  unfold SheetReader.activeSheet
  generalize reader.workbook.activeSheet? = found, reader'.workbook.activeSheet? = found' at hactive ⊢
  cases hactive with
  | none => exact .fault _
  | some hs =>
    cases hs with
    | worksheet htitle hrow hcol => exact .found (.worksheet htitle hrow hcol)
    | chart title => exact .fault _

theorem sheetOf (title : Option String) : Sheet.FoundAlike (reader.sheetOf title) (reader'.sheetOf title) := by
  unfold SheetReader.sheetOf
  rw [h.current]
  cases title with
  | some title => exact h.namedSheet title
  | none =>
    cases reader.current with
    | active => exact h.activeSheet
    | titled title | held title => exact h.namedSheet title
    | detached sheet => exact .found (.refl _)
    | heldChart title => exact .fault _

theorem checkBounds {s s' : Sheet} (hs : s.SameLayout s') (row col : Int) :
    reader'.checkBounds row col s' = reader.checkBounds row col s := by
  unfold SheetReader.checkBounds inBounds
  rw [h.maxRow, h.maxCol, hs.title_eq]

end SameLayout

/-! ## References -/

theorem read_of_error {fault : Fault} (hsheet : reader.sheetOf ref.sheet = .error fault) :
    reader.read ref = .error fault := by
  rw [read, hsheet, error_bind]

/-- The workbooks store the same in each cell that the reference covers. -/
def AgreeAt (reader reader' : SheetReader) (ref : Reference) : Prop :=
  ∀ sheet sheet', reader.sheetOf ref.sheet = .ok (.worksheet sheet) →
    reader'.sheetOf ref.sheet = .ok (.worksheet sheet') → ∀ row col, ref.Covers sheet row col →
      sheet'.stored (row, col) = sheet.stored (row, col)

theorem read_chart_congr (h : reader.SameLayout reader') {title : String}
    (hsheet : reader.sheetOf ref.sheet = .ok (.chart title)) (hsheet' : reader'.sheetOf ref.sheet = .ok (.chart title)) :
    reader'.read ref = reader.read ref := by
  rw [read, read, hsheet, hsheet', ok_bind, ok_bind]
  cases ref with
  | cell r =>
    simp only [readCell]
    rw [h.checkBounds (.chart title)]
  | range r => rfl

theorem read_congr (h : reader.SameLayout reader') (hcells : reader.AgreeAt reader' ref) :
    reader'.read ref = reader.read ref := by
  have hfound := h.sheetOf ref.sheet
  generalize hs : reader.sheetOf ref.sheet = found, hs' : reader'.sheetOf ref.sheet = found' at hfound
  cases hfound with
  | fault fault => rw [read_of_error hs, read_of_error hs']
  | found hlayout =>
    cases hlayout with
    | chart title => exact read_chart_congr h hs hs'
    | @worksheet sheet sheet' htitle hrow hcol =>
      have hbounds := h.checkBounds (.worksheet htitle hrow hcol)
      have hstored := hcells sheet sheet' hs hs'
      cases ref with
      | cell r =>
        rw [read_cell_eq hs, read_cell_eq hs', hbounds, Worksheet.readCell_eq_read_stored,
          Worksheet.readCell_eq_read_stored,
          hstored r.row r.col ⟨⟨le_refl _, le_refl _⟩, le_refl _, le_refl _⟩]
      | range r =>
        have hrows : r.rowsOn sheet' = r.rowsOn sheet := by rw [RangeReference.rowsOn, hrow]; rfl
        have hcols : r.colsOn sheet' = r.colsOn sheet := by rw [RangeReference.colsOn, hcol]; rfl
        have hread : sheet'.readRows (r.rowsOn sheet) (r.colsOn sheet) =
            sheet.readRows (r.rowsOn sheet) (r.colsOn sheet) :=
          Worksheet.readRows_congr fun row col hrow hcol => hstored row col ⟨hrow, hcol⟩
        rw [read_range_eq hs, read_range_eq hs', hrows, hcols, hbounds, hread]

end SheetReader

end GridCalc
