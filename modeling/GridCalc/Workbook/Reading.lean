import GridCalc.Workbook
import GridCalc.Column
import GridCalc.Reference.Box

/-!
# Reading references from a workbook

* `SheetReader`: a workbook, the sheet that references without a sheet are read from, and the limits of the grid.
* `SheetReader.read`: the value of a cell, or the rows of a range. An axis that the range leaves open reaches as far as
  the sheet is used. A range is refused if its last row or its last column lies outside of the limits, or if its
  columns have no names.
-/

namespace GridCalc

/-- Where references without a sheet are read from. -/
inductive CurrentSheet
  /-- Whichever sheet is active. -/
  | active
  /-- Whichever sheet has the title. -/
  | titled (title : String)
  /-- One worksheet of the workbook, held on to. -/
  | held (title : String)
  /-- A worksheet that was held on to and has left its workbook. -/
  | detached (sheet : Worksheet)
  /-- A chart sheet, held on to: there is nothing to read from it. -/
  | heldChart (title : String)

/-- What may be chosen as the current sheet. -/
inductive SheetChoice
  | active
  | titled (title : String)
  /-- The sheet that has the title now. -/
  | held (title : String)
  deriving DecidableEq

/-- The current sheet of a choice. Only a sheet that is there can be held on to; a title is looked up when it is
needed. -/
def SheetChoice.current (book : Workbook) : SheetChoice → Except Fault CurrentSheet
  | active => .ok .active
  | titled title => .ok (.titled title)
  | held title =>
    match book.find? title with
    | some (.worksheet _) => .ok (.held title)
    | some (.chart _) => .ok (.heldChart title)
    | none => Fault.raise (.missing (.sheet title))

/-- The rows and columns of the largest sheet. -/
def gridRows : Int := 1048576

def gridCols : Int := 16384

structure SheetReader where
  workbook : Workbook
  current : CurrentSheet := .active
  maxRow : Int := gridRows
  maxCol : Int := gridCols

namespace SheetReader

variable (reader : SheetReader)

/-- Chooses another current sheet. -/
def select (choice : SheetChoice) : Except Fault SheetReader := do
  return { reader with current := ← choice.current reader.workbook }

def namedSheet (title : String) : Except Fault Sheet :=
  match reader.workbook.find? title with
  | some sheet => .ok sheet
  | none => Fault.raise (.referenceNotFound (.noSheet title))

def activeSheet : Except Fault Sheet :=
  match reader.workbook.activeSheet? with
  | some (.worksheet sheet) => .ok (.worksheet sheet)
  | _ => Fault.raise (.referenceNotFound .noActiveSheet)

/-- The sheet that a reference is read from. -/
def sheetOf (sheet : Option String) : Except Fault Sheet :=
  match sheet, reader.current with
  | some title, _ => reader.namedSheet title
  | none, .active => reader.activeSheet
  | none, .titled title | none, .held title => reader.namedSheet title
  | none, .detached sheet => .ok (.worksheet sheet)
  | none, .heldChart title => Fault.raise (.referenceNotFound (.chartSheet title))

/-- The cell lies inside the limits. -/
def inBounds (row col : Int) : Bool := (1 ≤ row && row ≤ reader.maxRow) && (1 ≤ col && col ≤ reader.maxCol)

def checkBounds (row col : Int) (sheet : Sheet) : Except Fault Unit :=
  if reader.inBounds row col then .ok () else Fault.raise (.referenceNotFound (.outside row col sheet.title))

end SheetReader

/-- A cell that does not exist is read as nothing. -/
def Worksheet.readCell (sheet : Worksheet) (row col : Int) : Except Fault Value :=
  match sheet.get? (row, col) with
  | some content => content.read
  | none => .ok .empty

/-- The integers from one end to another. -/
def intervalFrom (low high : Int) : List Int := (List.range (high - low + 1).toNat).map fun (i : Nat) => low + i

def Worksheet.readRows (sheet : Worksheet) (rows cols : Int × Int) : Except Fault (List (List Value)) :=
  (intervalFrom rows.1 rows.2).mapM fun row => (intervalFrom cols.1 cols.2).mapM fun col => sheet.readCell row col

/-- The ends of an axis; an open axis runs from 1 as far as the sheet is used. -/
def Axis.clamp (axis : Axis) (used : Int) : Int × Int :=
  match axis with
  | between low high => (low, high)
  | _ => (1, used)

namespace SheetReader

variable (reader : SheetReader)

def readCell (ref : CellReference) (sheet : Sheet) : Except Fault Value := do
  reader.checkBounds ref.row ref.col sheet
  match sheet with
  | .worksheet sheet => sheet.readCell ref.row ref.col
  | .chart _ => Fault.raise (.chartLacks "_cells")

def readRange (ref : RangeReference) (sheet : Sheet) : Except Fault Value :=
  match sheet with
  | .chart _ => Fault.raise (.chartLacks "max_row")
  | .worksheet worksheet => do
    let rows := (Axis.ofEnds ref.first.row ref.last.row).clamp worksheet.lastRow
    let cols := (Axis.ofEnds ref.first.col ref.last.col).clamp worksheet.lastCol
    reader.checkBounds rows.2 cols.2 sheet
    let _ ← Column.letters cols.1
    let _ ← Column.letters cols.2
    return .list ((← worksheet.readRows rows cols).map .list)

/-- The value of a reference. -/
def read (ref : Reference) : Except Fault Value := do
  let sheet ← reader.sheetOf ref.sheet
  match ref with
  | .cell ref => reader.readCell ref sheet
  | .range ref => reader.readRange ref sheet

end SheetReader

end GridCalc
