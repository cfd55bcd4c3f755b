import GridCalc.Proofs.Workbook.Block
import GridCalc.Proofs.Workbook.Coverage

/-!
# Ranges that leave an axis open

A range of columns shows each row up to the last one in use, a range of rows each column. Whatever was written to a
worksheet, and in which order, every cell that exists in these columns or rows is shown once and at its place, and all
other places are empty.

* `Worksheet.Written`: the worksheets that writing leads to. Their cells are counted from 1 (`Worksheet.Written.one_le`).
* `Worksheet.UsedExtent`: the last row and the last column in use.
* `Worksheet.Reads`: how cells are read into a grid, and in which order they are looked for one that cannot be read.

Main statement: `SheetReader.read_openRange`.
-/

namespace GridCalc

/-! ## Written worksheets -/

namespace Worksheet

variable {sheet : Worksheet}

/-- The worksheets that writing and removing cells leads to. -/
inductive Written : Worksheet → Prop
  | new (title : String) : Written (.new title)
  | write {sheet : Worksheet} (h : Written sheet) (position : CellPosition) (entry : Entry) :
      Written (sheet.write position entry).2
  | clear {sheet : Worksheet} (h : Written sheet) (position : CellPosition) : Written (sheet.clear position)

theorem get?_touch (sheet : Worksheet) (p q : CellPosition) :
    (sheet.touch p).get? q = if q = p then some ((sheet.get? p).getD .empty) else sheet.get? q := by
  unfold touch
  cases hp : sheet.get? p with
  | none => simp [get?_set]
  | some content =>
    by_cases hq : q = p
    · simp [hq, hp]
    · simp [hq]

/-- After a write, a cell in front of the first row or column is as missing as before. Any other cell exists: it holds
what was stored, or what it held before if the entry was refused. -/
theorem get?_write (sheet : Worksheet) (p q : CellPosition) (entry : Entry) : (sheet.write p entry).2.get? q =
    if q = p ∧ 1 ≤ p.1 ∧ 1 ≤ p.2 then
      some (match entry.stored with
        | .ok content => content
        | .error _ => (sheet.get? p).getD .empty)
    else sheet.get? q := by
  unfold write
  by_cases hp : p.1 < 1 ∨ p.2 < 1
  · have hnot : ¬(q = p ∧ 1 ≤ p.1 ∧ 1 ≤ p.2) := by omega
    rw [if_pos hp, if_neg hnot]
  · have hpos : 1 ≤ p.1 ∧ 1 ≤ p.2 := by omega
    rw [if_neg hp]
    cases entry.stored with
    | ok content => simp [get?_set, hpos]
    | error fault => simp [get?_touch, hpos]

/-- The cells of a written worksheet are counted from 1. -/
theorem Written.one_le (h : sheet.Written) : ∀ {position : CellPosition} {content : Content},
    sheet.get? position = some content → 1 ≤ position.1 ∧ 1 ≤ position.2 := by
  induction h with
  | new title =>
    intro position content hget
    cases hget
  | write _ p entry ih =>
    intro position content hget
    rw [get?_write] at hget
    split at hget
    · rename_i hwritten
      rw [hwritten.1]
      exact hwritten.2
    · exact ih hget
  | clear _ p ih =>
    intro position content hget
    rw [get?_clear] at hget
    split at hget
    · cases hget
    · exact ih hget

theorem Written.writeAll : ∀ {sheet : Worksheet} (entries : List (CellPosition × Entry)), sheet.Written →
    (sheet.writeAll entries).2.Written
  | _, [], h => h
  | sheet, (position, entry) :: rest, h => by
    have hfirst := h.write position entry
    unfold Worksheet.writeAll
    split
    · rename_i sheet' hwrite
      rw [hwrite] at hfirst
      exact hfirst.writeAll rest
    · exact hfirst

/-! ## The used extent -/

/-- The last row and the last column of all cells that exist, or 1 if there are none. -/
structure UsedExtent (sheet : Worksheet) (row col : Int) : Prop where
  row : IsGreatest {n | n = 1 ∨ ∃ position content, sheet.get? position = some content ∧ position.1 = n} row
  col : IsGreatest {n | n = 1 ∨ ∃ position content, sheet.get? position = some content ∧ position.2 = n} col

theorem foldl_max_mem (coordinates : List Int) : ∀ {n : Int},
    coordinates.foldl max n = n ∨ coordinates.foldl max n ∈ coordinates := by
  induction coordinates with
  | nil => exact Or.inl rfl
  | cons k rest ih =>
    intro n
    rw [List.foldl_cons]
    rcases ih (n := max n k) with h | h
    · rcases max_choice n k with hmax | hmax
      · exact Or.inl (h.trans hmax)
      · exact Or.inr (by rw [h, hmax]; exact List.mem_cons_self)
    · exact Or.inr (List.mem_cons_of_mem _ h)

theorem isGreatest_foldl_max (coordinates : List Int) (n : Int) :
    IsGreatest {m | m = n ∨ m ∈ coordinates} (coordinates.foldl max n) :=
  ⟨foldl_max_mem coordinates, fun _ hm => le_foldl_max coordinates (hm.imp_left le_of_eq)⟩

theorem exists_get?_iff {position : CellPosition} :
    (∃ content, sheet.get? position = some content) ↔ ∃ cell ∈ sheet.cells, cell.1 = position := by
  constructor
  · rintro ⟨content, hget⟩
    by_contra hnone
    rw [get?, List.lookup_eq_none_iff.mpr] at hget
    · cases hget
    · intro cell hcell
      have hne : position ≠ cell.1 := fun heq => hnone ⟨cell, hcell, heq.symm⟩
      simpa using hne
  · rintro ⟨cell, hcell, rfl⟩
    rw [← Option.isSome_iff_exists, Option.isSome_iff_ne_none]
    intro hnone
    exact absurd (List.lookup_eq_none_iff.mp hnone cell hcell) (by simp)

/-- The greatest coordinate along one direction. -/
theorem isGreatest_coordinate (sheet : Worksheet) (coordinate : CellPosition → Int) :
    IsGreatest {n | n = 1 ∨ ∃ position content, sheet.get? position = some content ∧ coordinate position = n}
      ((sheet.cells.map fun cell => coordinate cell.1).foldl max 1) := by
  have hset : {n | n = 1 ∨ ∃ position content, sheet.get? position = some content ∧ coordinate position = n} =
      {n | n = 1 ∨ n ∈ sheet.cells.map fun cell => coordinate cell.1} := by
    ext n
    simp only [Set.mem_ofPred_eq, List.mem_map, exists_and_right, exists_get?_iff]
    constructor
    · rintro (rfl | ⟨position, ⟨cell, hcell, rfl⟩, rfl⟩)
      · exact Or.inl rfl
      · exact Or.inr ⟨cell, hcell, rfl⟩
    · rintro (rfl | ⟨cell, hcell, rfl⟩)
      · exact Or.inl rfl
      · exact Or.inr ⟨cell.1, ⟨cell, hcell, rfl⟩, rfl⟩
  rw [hset]
  exact isGreatest_foldl_max _ 1

theorem usedExtent (sheet : Worksheet) : sheet.UsedExtent sheet.lastRow sheet.lastCol :=
  ⟨sheet.isGreatest_coordinate Prod.fst, sheet.isGreatest_coordinate Prod.snd⟩

theorem UsedExtent.unique {row col : Int} (h : sheet.UsedExtent row col) : row = sheet.lastRow ∧ col = sheet.lastCol :=
  ⟨h.row.unique sheet.usedExtent.row, h.col.unique sheet.usedExtent.col⟩

/-! ## Chosen cells -/

/-- Each of the chosen cells that exist can be read. -/
def CanRead (sheet : Worksheet) (chosen : CellPosition → Prop) : Prop :=
  ∀ position content, chosen position → sheet.get? position = some content → ∃ v, content.read = .ok v

/-- The grid shows what is read of the chosen cells, each once and at its place, and is empty elsewhere. -/
structure Shows (sheet : Worksheet) (chosen : CellPosition → Prop) (origin : CellPosition) (height width : Nat)
    (grid : Rows) : Prop where
  isGrid : grid.IsGrid height width
  existing : ∀ position content, chosen position → sheet.get? position = some content →
    ∃ (i j : Nat) (v : Value), position = (origin.1 + i, origin.2 + j) ∧ content.read = .ok v ∧
      grid.get? i j = some v
  missing : ∀ i j : Nat, i < height → j < width → sheet.get? (origin.1 + i, origin.2 + j) = none →
    grid.get? i j = some .empty

/-- The order of reading: row by row, each row from left to right. -/
def ReadBefore (p q : CellPosition) : Prop := p.1 < q.1 ∨ p.1 = q.1 ∧ p.2 < q.2

/-- The fault of the first chosen cell that cannot be read. -/
def FirstFault (sheet : Worksheet) (chosen : CellPosition → Prop) (fault : Fault) : Prop :=
  ∃ position content, chosen position ∧ sheet.get? position = some content ∧ content.read = .error fault ∧
    sheet.CanRead fun other => chosen other ∧ ReadBefore other position

/-- What reading the chosen cells ends in. -/
structure Reads (sheet : Worksheet) (chosen : CellPosition → Prop) (origin : CellPosition) (height width : Nat)
    (outcome : Except Fault Value) : Prop where
  grid : sheet.CanRead chosen →
    ∃ grid : Rows, outcome = .ok grid.toValue ∧ sheet.Shows chosen origin height width grid
  fault : ¬sheet.CanRead chosen → ∃ fault, outcome = .error fault ∧ sheet.FirstFault chosen fault

theorem Shows.canRead {chosen : CellPosition → Prop} {origin : CellPosition} {height width : Nat} {grid : Rows}
    (h : sheet.Shows chosen origin height width grid) : sheet.CanRead chosen := by
  intro position content hin hget
  obtain ⟨-, -, v, -, hv, -⟩ := h.existing position content hin hget
  exact ⟨v, hv⟩

theorem FirstFault.not_canRead {chosen : CellPosition → Prop} {fault : Fault} (h : sheet.FirstFault chosen fault) :
    ¬sheet.CanRead chosen := by
  intro hall
  obtain ⟨position, content, hin, hget, hfault, -⟩ := h
  obtain ⟨v, hv⟩ := hall position content hin hget
  cases hfault.symm.trans hv

section

variable {chosen : CellPosition → Prop} {rows cols : Int × Int}
  (hchosen : ∀ position content, sheet.get? position = some content → (chosen position ↔
    (rows.1 ≤ position.1 ∧ position.1 ≤ rows.2) ∧ cols.1 ≤ position.2 ∧ position.2 ≤ cols.2))
include hchosen

theorem shows_of_readRows {grid : Rows} (h : sheet.readRows rows cols = .ok grid) :
    sheet.Shows chosen (rows.1, cols.1) (rows.2 - rows.1 + 1).toNat (cols.2 - cols.1 + 1).toNat grid := by
  obtain ⟨hgrid, hentries⟩ := isGrid_of_readRows h
  refine ⟨hgrid, fun position content hin hget => ?_, fun i j hi hj hget => ?_⟩
  · rw [hchosen position content hget] at hin
    obtain ⟨v, hv, hcell⟩ := hentries (position.1 - rows.1).toNat (position.2 - cols.1).toNat (by omega) (by omega)
    have hposition : position = (rows.1 + (position.1 - rows.1).toNat, cols.1 + (position.2 - cols.1).toNat) :=
      Prod.ext (by simp only; omega) (by simp only; omega)
    rw [readCell, ← hposition, hget] at hcell
    exact ⟨_, _, v, hposition, hcell, hv⟩
  · obtain ⟨v, hv, hcell⟩ := hentries i j hi hj
    rw [readCell, hget] at hcell
    cases hcell
    exact hv

/-- Rows fail with the first of their cells that cannot be read. -/
theorem firstFault_of_readRows {fault : Fault} (h : sheet.readRows rows cols = .error fault) :
    sheet.FirstFault chosen fault := by
  obtain ⟨row, hrow, hfault, hrows⟩ := exists_first_of_mapM_intervalFrom h
  obtain ⟨col, hcol, hcell, hcells⟩ := exists_first_of_mapM_intervalFrom hfault
  obtain ⟨content, hget, hread⟩ := readCell_eq_error_iff.mp hcell
  refine ⟨(row, col), content, (hchosen _ content hget).mpr ⟨hrow, hcol⟩, hget, hread, ?_⟩
  rintro ⟨row', col'⟩ content' ⟨hin, hbefore⟩ hget'
  rw [hchosen _ content' hget'] at hin
  rw [← readCell_of_get? hget']
  rcases hbefore with hlt | ⟨rfl, hlt⟩
  · obtain ⟨entries, hentries⟩ := hrows row' hin.1.1 hlt
    obtain ⟨v, -, hv⟩ := exists_of_mapM_eq_ok hentries (mem_intervalFrom.mpr hin.2)
    exact ⟨v, hv⟩
  · exact hcells col' hin.2.1 hlt

/-- Rows are read as a grid of the cells that are chosen in them, or fail with the first of those that cannot be
read. -/
theorem reads_readRows : sheet.Reads chosen (rows.1, cols.1) (rows.2 - rows.1 + 1).toNat
    (cols.2 - cols.1 + 1).toNat (Rows.toValue <$> sheet.readRows rows cols) := by
  cases hread : sheet.readRows rows cols with
  | ok grid =>
    have hshows := shows_of_readRows hchosen hread
    exact ⟨fun _ => ⟨grid, rfl, hshows⟩, fun hnot => absurd hshows.canRead hnot⟩
  | error fault =>
    have hfirst := firstFault_of_readRows hchosen hread
    exact ⟨fun hall => absurd hall hfirst.not_canRead, fun _ => ⟨fault, rfl, hfirst⟩⟩

end

end Worksheet

/-! ## Ranges -/

namespace RangeReference

variable {r : RangeReference}

theorem rowsOn_of_isColumnRange (h : r.isColumnRange = true) (sheet : Worksheet) :
    r.rowsOn sheet = (1, sheet.lastRow) := by
  rw [isColumnRange, Bool.and_eq_true, Option.isNone_iff_eq_none] at h
  rw [rowsOn, h.1]
  rfl

theorem colsOn_of_isRowRange (h : r.isRowRange = true) (sheet : Worksheet) :
    r.colsOn sheet = (1, sheet.lastCol) := by
  rw [isRowRange, Bool.and_eq_true, Option.isNone_iff_eq_none] at h
  rw [colsOn, h.1]
  rfl

end RangeReference

namespace SheetReader

variable {reader : SheetReader} {sheet : Worksheet} {r : RangeReference}

/-- A range of columns shows every row of the worksheet, a range of rows every column: the grid is as high or as wide
as the worksheet is used, each cell that exists in the columns or rows is shown at its place, and all other places are
empty. If one of these cells cannot be read, the range fails with the first of them. -/
theorem read_openRange (hnamed : reader.maxCol ≤ Column.lastNamed)
    (hsheet : reader.sheetOf r.sheet = .ok (.worksheet sheet)) (hwritten : sheet.Written) {lastRow lastCol : Int}
    (hextent : sheet.UsedExtent lastRow lastCol) (hrows : lastRow ≤ reader.maxRow) (hcols : lastCol ≤ reader.maxCol) :
    (∀ a b, r.isColumnRange = true → r.first.col = some a → r.last.col = some b → 1 ≤ min a b →
      max a b ≤ reader.maxCol →
        sheet.Reads (fun position => min a b ≤ position.2 ∧ position.2 ≤ max a b) (1, min a b)
          lastRow.toNat ((a - b).natAbs + 1) (reader.read (.range r))) ∧
    ∀ a b, r.isRowRange = true → r.first.row = some a → r.last.row = some b → 1 ≤ min a b →
      max a b ≤ reader.maxRow →
        sheet.Reads (fun position => min a b ≤ position.1 ∧ position.1 ≤ max a b) (min a b, 1)
          ((a - b).natAbs + 1) lastCol.toNat (reader.read (.range r)) := by
  obtain ⟨rfl, rfl⟩ := hextent.unique
  have hrow := sheet.one_le_lastRow
  have hcol := sheet.one_le_lastCol
  have hused : ∀ position content, sheet.get? position = some content →
      (1 ≤ position.1 ∧ position.1 ≤ sheet.lastRow) ∧ 1 ≤ position.2 ∧ position.2 ≤ sheet.lastCol := by
    intro position content hget
    obtain ⟨hrow, hcol⟩ := hwritten.one_le hget
    exact ⟨⟨hrow, hextent.row.2 (Or.inr ⟨position, content, hget, rfl⟩)⟩, hcol,
      hextent.col.2 (Or.inr ⟨position, content, hget, rfl⟩)⟩
  constructor
  · intro a b hrange ha hb hlow hhigh
    have hrowsOn := RangeReference.rowsOn_of_isColumnRange hrange sheet
    have hcolsOn := r.colsOn_of_ends ha hb sheet
    have hheight : (sheet.lastRow - 1 + 1).toNat = sheet.lastRow.toNat := by omega
    have hwidth : (max a b - min a b + 1).toNat = (a - b).natAbs + 1 := by omega
    rw [read_range_of_limits hnamed hsheet (by rw [hrowsOn]; omega) (by rw [hcolsOn]; omega), hrowsOn, hcolsOn,
      ← hheight, ← hwidth]
    exact @Worksheet.reads_readRows sheet _ (1, sheet.lastRow) (min a b, max a b) fun position content hget =>
      (and_iff_right (hused position content hget).1).symm
  · intro a b hrange ha hb hlow hhigh
    have hrowsOn := r.rowsOn_of_ends ha hb sheet
    have hcolsOn := RangeReference.colsOn_of_isRowRange hrange sheet
    have hheight : (max a b - min a b + 1).toNat = (a - b).natAbs + 1 := by omega
    have hwidth : (sheet.lastCol - 1 + 1).toNat = sheet.lastCol.toNat := by omega
    rw [read_range_of_limits hnamed hsheet (by rw [hrowsOn]; omega) (by rw [hcolsOn]; omega), hrowsOn, hcolsOn,
      ← hheight, ← hwidth]
    exact @Worksheet.reads_readRows sheet _ (min a b, max a b) (1, sheet.lastCol) fun position content hget =>
      (and_iff_left (hused position content hget).2).symm

/-- A sheet with a cell that was written twice, and an empty cell that was written below and to the left of it. -/
def rewrittenSheet : Worksheet :=
  ((Worksheet.new "Data").writeAll
    [((2, 3), .value (.int 5)), ((4, 1), .value .empty), ((2, 3), .value (.text "#N/A"))]).2

def rewrittenReader : SheetReader where
  workbook := { sheets := [.worksheet rewrittenSheet], active := 0 }

/-- The columns `C:B`, which only one of the cells lies in. -/
def backwardColumns : RangeReference := ⟨⟨some 3, none, none⟩, ⟨some 2, none, none⟩, none, none⟩

theorem read_openRange_backwards : rewrittenReader.maxCol ≤ Column.lastNamed ∧
    rewrittenReader.sheetOf none = .ok (.worksheet rewrittenSheet) ∧ rewrittenSheet.Written ∧
    rewrittenSheet.UsedExtent 4 3 ∧ 4 ≤ rewrittenReader.maxRow ∧ 3 ≤ rewrittenReader.maxCol ∧
    backwardColumns.isColumnRange = true ∧
    rewrittenSheet.Reads (fun position => 2 ≤ position.2 ∧ position.2 ≤ 3) (1, 2) 4 2
      (rewrittenReader.read (.range backwardColumns)) ∧
    rewrittenReader.read (.range backwardColumns) =
      .ok (Rows.toValue [[.empty, .empty], [.empty, .error .notAvailable], [.empty, .empty], [.empty, .empty]]) := by
  have hnamed : rewrittenReader.maxCol ≤ Column.lastNamed := by decide
  have hsheet : rewrittenReader.sheetOf none = .ok (.worksheet rewrittenSheet) := rfl
  have hwritten : rewrittenSheet.Written := (Worksheet.Written.new "Data").writeAll _
  have hextent : rewrittenSheet.UsedExtent 4 3 := rewrittenSheet.usedExtent
  obtain ⟨hreads, -⟩ := @read_openRange rewrittenReader rewrittenSheet backwardColumns hnamed hsheet hwritten 4 3 hextent
    (by decide) (by decide)
  exact ⟨hnamed, hsheet, hwritten, hextent, by decide, by decide, rfl,
    hreads 3 2 rfl rfl rfl (by decide) (by decide), rfl⟩

/-- A sheet whose only cell stores a decimal that is no double. -/
def signalingSheet : Worksheet := ((Worksheet.new "Data").write (1, 1) (.content (.decimal (.nan true)))).2

def signalingReader : SheetReader where
  workbook := { sheets := [.worksheet signalingSheet], active := 0 }

/-- The column `A:A`. -/
def firstColumn : RangeReference := ⟨⟨some 1, none, none⟩, ⟨some 1, none, none⟩, none, none⟩

/-- A column inside the limits need not be a grid. -/
theorem read_openRange_of_signaling : signalingReader.maxCol ≤ Column.lastNamed ∧
    signalingReader.sheetOf none = .ok (.worksheet signalingSheet) ∧ signalingSheet.Written ∧
    signalingSheet.UsedExtent 1 1 ∧ 1 ≤ signalingReader.maxRow ∧ 1 ≤ signalingReader.maxCol ∧
    firstColumn.isColumnRange = true ∧
    signalingReader.read (.range firstColumn) = .error (.invalid .signalingNaN) ∧
    ∀ grid : Rows, signalingReader.read (.range firstColumn) ≠ .ok grid.toValue := by
  have hread : signalingReader.read (.range firstColumn) = .error (.invalid .signalingNaN) := rfl
  refine ⟨by decide, rfl, (Worksheet.Written.new "Data").write _ _, signalingSheet.usedExtent, by decide, by decide,
    rfl, hread, fun grid hgrid => ?_⟩
  rw [hread] at hgrid
  cases hgrid

end SheetReader

end GridCalc
