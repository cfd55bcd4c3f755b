import GridCalc.Proofs.Grid
import GridCalc.Proofs.Operator.Entries
import GridCalc.Workbook.Reading

/-!
# What is read from a workbook

A cell is read as a scalar, a range as a grid of them (`SheetReader.plain_of_read`), and reading raises no formula error
(`SheetReader.not_aborts_read`): an error that stands in a cell is a value. What `SheetReader.read` did when it gave a
value is said by `SheetReader.read_cell_eq_ok_iff` and `SheetReader.exists_grid_of_read`.
-/

namespace GridCalc

/-! ## Cells -/

theorem StoredDecimal.endsIn_toDouble (d : StoredDecimal) : EndsIn (fun _ => True) Fault.IsInvalid d.toDouble := by
  unfold toDouble
  split <;> first | exact trivial | exact Fault.isInvalid_reported _

theorem RichPart.endsIn_read (part : RichPart) : EndsIn (fun _ => True) Fault.IsInvalid part.read := by
  cases part with
  | text s => exact trivial
  | int n =>
    cases h : Number.intWritable n with
    | true => simp [read, h, EndsIn]
    | false => simp [read, h, EndsIn, Fault.IsInvalid]

namespace Content

theorem isScalar_readText (s : String) : (readText s).IsScalar := by
  unfold readText
  split <;> exact trivial

theorem endsIn_read (content : Content) : EndsIn Value.IsScalar Fault.IsInvalid content.read := by
  cases content with
  | empty | bool b | number n | date d | dateTime d t | time t | duration d => exact trivial
  | text s => exact isScalar_readText s
  | decimal d => exact d.endsIn_toDouble.bind fun _ _ => trivial
  | rich parts => exact (EndsIn.mapM fun part _ => part.endsIn_read).bind fun _ _ => isScalar_readText _
  | arrayFormula text =>
    cases text with
    | none => exact trivial
    | some s => exact isScalar_readText s

end Content

namespace Worksheet

variable {sheet : Worksheet}

theorem endsIn_readCell (sheet : Worksheet) (row col : Int) :
    EndsIn Value.IsScalar Fault.IsInvalid (sheet.readCell row col) := by
  unfold readCell
  split
  · exact Content.endsIn_read _
  · exact trivial

theorem isScalar_of_readCell {row col : Int} {v : Value} (h : sheet.readCell row col = .ok v) : v.IsScalar :=
  (sheet.endsIn_readCell row col).of_eq_ok h

theorem readCell_eq_error_iff {row col : Int} {fault : Fault} : sheet.readCell row col = .error fault ↔
    ∃ content, sheet.get? (row, col) = some content ∧ content.read = .error fault := by
  unfold readCell
  cases sheet.get? (row, col) <;> simp

theorem readCell_of_get? {position : CellPosition} {content : Content} (hget : sheet.get? position = some content) :
    sheet.readCell position.1 position.2 = content.read := by
  rw [readCell, hget]

end Worksheet

/-! ## Rows -/

@[simp] theorem length_intervalFrom (low high : Int) : (intervalFrom low high).length = (high - low + 1).toNat := by
  simp [intervalFrom]

@[simp] theorem getElem_intervalFrom (low high : Int) (i : Nat) (hi : i < (intervalFrom low high).length) :
    (intervalFrom low high)[i] = low + i := by
  simp [intervalFrom]

/-- A traversal of an interval ends in the fault of the first number that is at fault. -/
theorem exists_first_of_mapM_intervalFrom {α : Type} {f : Int → Except Fault α} {low high : Int} {fault : Fault}
    (h : (intervalFrom low high).mapM f = .error fault) :
    ∃ n, (low ≤ n ∧ n ≤ high) ∧ f n = .error fault ∧ ∀ m, low ≤ m → m < n → ∃ a, f m = .ok a := by
  obtain ⟨i, hi, hfault, hbefore⟩ := exists_getElem_of_mapM_eq_error h
  simp only [length_intervalFrom] at hi
  simp only [getElem_intervalFrom] at hfault hbefore
  refine ⟨low + i, by omega, hfault, fun m hlow hm => ?_⟩
  obtain ⟨a, ha⟩ := hbefore (m - low).toNat (by omega)
  have hplace : low + (m - low).toNat = m := by omega
  rw [hplace] at ha
  exact ⟨a, ha⟩

namespace Worksheet

variable {sheet : Worksheet} {rows cols : Int × Int} {grid : Rows}

/-- The rows of a range hold what is read from its cells. -/
theorem isGrid_of_readRows (h : sheet.readRows rows cols = .ok grid) :
    grid.IsGrid (rows.2 - rows.1 + 1).toNat (cols.2 - cols.1 + 1).toNat ∧
      ∀ i j : Nat, i < (rows.2 - rows.1 + 1).toNat → j < (cols.2 - cols.1 + 1).toNat →
        ∃ v, grid.get? i j = some v ∧ sheet.readCell (rows.1 + i) (cols.1 + j) = .ok v := by
  obtain ⟨hgrid, hentries⟩ := isGrid_of_mapM h
  simp only [length_intervalFrom] at hgrid hentries
  refine ⟨hgrid, fun i j hi hj => ?_⟩
  obtain ⟨v, hv, hread⟩ := hentries i j hi hj
  rw [getElem_intervalFrom, getElem_intervalFrom] at hread
  exact ⟨v, hv, hread⟩

theorem endsIn_readRows (sheet : Worksheet) (rows cols : Int × Int) :
    EndsIn (fun grid => ∀ row ∈ grid, ∀ v ∈ row, v.IsScalar) Fault.IsInvalid (sheet.readRows rows cols) := by
  have hrow : ∀ row ∈ intervalFrom rows.1 rows.2, EndsIn (fun entries => ∀ v ∈ entries, Value.IsScalar v)
      Fault.IsInvalid ((intervalFrom cols.1 cols.2).mapM fun col => sheet.readCell row col) := fun row _ =>
    (EndsIn.forall_mapM fun col _ => sheet.endsIn_readCell row col).mono fun _ hentries => hentries.2
  exact (EndsIn.forall_mapM hrow).mono fun _ hgrid => hgrid.2

theorem isScalar_of_readRows (h : sheet.readRows rows cols = .ok grid) : ∀ row ∈ grid, ∀ v ∈ row, v.IsScalar :=
  (sheet.endsIn_readRows rows cols).of_eq_ok h

end Worksheet

/-! ## References -/

namespace RangeReference

/-- The first and the last row of a range on a worksheet. -/
def rowsOn (r : RangeReference) (sheet : Worksheet) : Int × Int :=
  (Axis.ofEnds r.first.row r.last.row).clamp sheet.lastRow

/-- The first and the last column of a range on a worksheet. -/
def colsOn (r : RangeReference) (sheet : Worksheet) : Int × Int :=
  (Axis.ofEnds r.first.col r.last.col).clamp sheet.lastCol

end RangeReference

theorem Column.endsIn_letters (n : Int) : EndsIn (fun _ => True) Fault.IsInvalid (Column.letters n) := by
  unfold letters
  split
  · exact trivial
  · exact Fault.isInvalid_reported _

namespace SheetReader

variable (reader : SheetReader)

theorem checkBounds_eq_ok_iff {row col : Int} {sheet : Sheet} {u : Unit} :
    reader.checkBounds row col sheet = .ok u ↔ reader.inBounds row col = true := by
  unfold checkBounds
  split
  · rename_i hin
    simp [hin]
  · rename_i hout
    constructor
    · intro h
      cases h
    · intro h
      exact absurd h hout

theorem not_aborts_checkBounds (row col : Int) (sheet : Sheet) : ¬Aborts (reader.checkBounds row col sheet) := by
  unfold checkBounds
  split
  · exact not_aborts_ok _
  · exact not_aborts_raise (by simp)

theorem not_aborts_namedSheet (title : String) : ¬Aborts (reader.namedSheet title) := by
  unfold namedSheet
  split
  · exact not_aborts_ok _
  · exact not_aborts_raise (by simp)

theorem not_aborts_sheetOf (sheet : Option String) : ¬Aborts (reader.sheetOf sheet) := by
  unfold sheetOf
  split
  · exact reader.not_aborts_namedSheet _
  · unfold activeSheet
    split
    · exact not_aborts_ok _
    · exact not_aborts_raise (by simp)
  · exact reader.not_aborts_namedSheet _
  · exact reader.not_aborts_namedSheet _
  · exact not_aborts_ok _
  · exact not_aborts_raise (by simp)

/-- A cell is read iff it lies inside the limits on a worksheet and holds what can be read. -/
theorem read_cell_eq_ok_iff {r : CellReference} {v : Value} :
    reader.read (.cell r) = .ok v ↔ ∃ sheet, reader.sheetOf r.sheet = .ok (.worksheet sheet) ∧
      reader.inBounds r.row r.col = true ∧ sheet.readCell r.row r.col = .ok v := by
  constructor
  · intro h
    obtain ⟨sheet, hsheet, h⟩ := bind_eq_ok_iff.mp h
    obtain ⟨u, hu, h⟩ := bind_eq_ok_iff.mp h
    cases sheet with
    | chart title => cases h
    | worksheet sheet => exact ⟨sheet, hsheet, reader.checkBounds_eq_ok_iff.mp hu, h⟩
  · rintro ⟨sheet, hsheet, hin, hread⟩
    refine bind_eq_ok_iff.mpr ⟨.worksheet sheet, hsheet, bind_eq_ok_iff.mpr ⟨(), ?_, hread⟩⟩
    exact reader.checkBounds_eq_ok_iff.mpr hin

/-- A range that is read lies on a worksheet, and its last cell inside the limits. -/
theorem exists_grid_of_read {r : RangeReference} {v : Value} (h : reader.read (.range r) = .ok v) :
    ∃ sheet grid, reader.sheetOf r.sheet = .ok (.worksheet sheet) ∧
      reader.inBounds (r.rowsOn sheet).2 (r.colsOn sheet).2 = true ∧
      sheet.readRows (r.rowsOn sheet) (r.colsOn sheet) = .ok grid ∧ v = Rows.toValue grid := by
  obtain ⟨sheet, hsheet, h⟩ := bind_eq_ok_iff.mp h
  cases sheet with
  | chart title => cases h
  | worksheet sheet =>
    obtain ⟨u, hu, h⟩ := bind_eq_ok_iff.mp h
    obtain ⟨_, -, h⟩ := bind_eq_ok_iff.mp h
    obtain ⟨_, -, h⟩ := bind_eq_ok_iff.mp h
    obtain ⟨grid, hgrid, h⟩ := bind_eq_ok_iff.mp h
    exact ⟨sheet, grid, hsheet, reader.checkBounds_eq_ok_iff.mp hu, hgrid, (Except.ok.inj h).symm⟩

/-- A range that is read shows at each place what is read from the cell there, alone. -/
theorem cells_of_read_range {r : RangeReference} {v : Value} (h : reader.read (.range r) = .ok v)
    (hrows : ∀ sheet, 1 ≤ (r.rowsOn sheet).1) (hcols : ∀ sheet, 1 ≤ (r.colsOn sheet).1) :
    ∃ (sheet : Worksheet) (grid : Rows), v = grid.toValue ∧ (∀ row ∈ grid, ∀ x ∈ row, Value.IsScalar x) ∧
      grid.IsGrid ((r.rowsOn sheet).2 - (r.rowsOn sheet).1 + 1).toNat
        ((r.colsOn sheet).2 - (r.colsOn sheet).1 + 1).toNat ∧
      ∀ (i j : Nat) (c : CellReference), (r.rowsOn sheet).1 + i ≤ (r.rowsOn sheet).2 →
        (r.colsOn sheet).1 + j ≤ (r.colsOn sheet).2 → c.sheet = r.sheet → c.row = (r.rowsOn sheet).1 + i →
        c.col = (r.colsOn sheet).1 + j → ∃ x, grid.get? i j = some x ∧ reader.read (.cell c) = .ok x := by
  obtain ⟨sheet, grid, hsheet, hin, hread, rfl⟩ := reader.exists_grid_of_read h
  obtain ⟨hgrid, hentries⟩ := Worksheet.isGrid_of_readRows hread
  refine ⟨sheet, grid, rfl, Worksheet.isScalar_of_readRows hread, hgrid, fun i j c hi hj hcsheet hcrow hccol => ?_⟩
  have hrow := hrows sheet
  have hcol := hcols sheet
  obtain ⟨x, hx, hcell⟩ := hentries i j (by omega) (by omega)
  refine ⟨x, hx, reader.read_cell_eq_ok_iff.mpr ⟨sheet, ?_, ?_, ?_⟩⟩
  · rw [hcsheet]
    exact hsheet
  · simp only [inBounds, Bool.and_eq_true, decide_eq_true_eq] at hin ⊢
    omega
  · rw [hcrow, hccol]
    exact hcell

theorem plain_of_read {ref : Reference} {v : Value} (h : reader.read ref = .ok v) : v.Plain := by
  cases ref with
  | cell r =>
    obtain ⟨sheet, -, -, hread⟩ := reader.read_cell_eq_ok_iff.mp h
    exact Value.plain_of_isScalar (Worksheet.isScalar_of_readCell hread)
  | range r =>
    obtain ⟨sheet, grid, -, -, hread, rfl⟩ := reader.exists_grid_of_read h
    exact Rows.plain_toValue fun row hrow w hw =>
      Value.plain_of_isScalar (Worksheet.isScalar_of_readRows hread row hrow w hw)

theorem not_aborts_read (ref : Reference) : ¬Aborts (reader.read ref) := by
  refine not_aborts_bind (reader.not_aborts_sheetOf _) fun sheet _ => ?_
  cases ref with
  | cell r =>
    refine not_aborts_bind (reader.not_aborts_checkBounds _ _ _) fun _ _ => ?_
    cases sheet with
    | worksheet sheet => exact (sheet.endsIn_readCell _ _).not_aborts
    | chart title => exact not_aborts_raise (by simp [Fault.chartLacks])
  | range r =>
    cases sheet with
    | chart title => exact not_aborts_raise (by simp [Fault.chartLacks])
    | worksheet sheet =>
      exact not_aborts_bind (reader.not_aborts_checkBounds _ _ _) fun _ _ =>
        not_aborts_bind (Column.endsIn_letters _).not_aborts fun _ _ =>
          not_aborts_bind (Column.endsIn_letters _).not_aborts fun _ _ =>
            not_aborts_bind (sheet.endsIn_readRows _ _).not_aborts fun _ _ => not_aborts_ok _

end SheetReader

end GridCalc
