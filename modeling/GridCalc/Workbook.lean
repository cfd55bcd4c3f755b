import GridCalc.Workbook.Content

/-!
# Workbooks

A workbook is a row of sheets, one of which may be active. A worksheet maps cells to contents; a chart sheet has no
cells at all.

* `Worksheet.get?`, `Worksheet.set`, `Worksheet.clear`: the cells of a worksheet; `Worksheet.write` sets a cell to what
  can be stored of an entry.
* `Worksheet.lastRow`, `Worksheet.lastCol`: its extent.
* `Workbook.activeSheet?`: sheets are counted from the front, or from the end by negative numbers.
-/

namespace GridCalc

/-- The row and the column of a cell. -/
abbrev CellPosition := Int × Int

structure Worksheet where
  title : String
  cells : List (CellPosition × Content)

namespace Worksheet

def get? (sheet : Worksheet) (position : CellPosition) : Option Content := sheet.cells.lookup position

/-- Removes a cell. -/
def clear (sheet : Worksheet) (position : CellPosition) : Worksheet :=
  { sheet with cells := sheet.cells.filter fun cell => cell.1 != position }

/-- Writes a cell, which exists from then on even if it is empty. -/
def set (sheet : Worksheet) (position : CellPosition) (content : Content) : Worksheet :=
  { sheet with cells := (position, content) :: (sheet.clear position).cells }

/-- Makes a cell exist; one that exists keeps what it holds. -/
def touch (sheet : Worksheet) (position : CellPosition) : Worksheet :=
  if (sheet.get? position).isSome then sheet else sheet.set position .empty

/-- Writes an entry. Positions are counted from 1; an entry that is refused only makes its cell exist. -/
def write (sheet : Worksheet) (position : CellPosition) (entry : Entry) : Except Fault Unit × Worksheet :=
  if position.1 < 1 ∨ position.2 < 1 then (Fault.raise (.invalid .cellPosition), sheet)
  else match entry.stored with
    | .ok content => (.ok (), sheet.set position content)
    | .error fault => (.error fault, sheet.touch position)

/-- Writes entries in order, up to the first that is refused. -/
def writeAll (sheet : Worksheet) : List (CellPosition × Entry) → Except Fault Unit × Worksheet
  | [] => (.ok (), sheet)
  | (position, entry) :: rest =>
    match sheet.write position entry with
    | (.ok (), sheet') => writeAll sheet' rest
    | refused => refused

def new (title : String) : Worksheet := ⟨title, []⟩

/-- The largest row of any cell, or 1. -/
def lastRow (sheet : Worksheet) : Int := (sheet.cells.map (·.1.1)).foldl max 1

/-- The largest column of any cell, or 1. -/
def lastCol (sheet : Worksheet) : Int := (sheet.cells.map (·.1.2)).foldl max 1

/-! ## Cells after a write -/

theorem lookup_filter_ne {α β : Type} [BEq α] [LawfulBEq α] (cells : List (α × β)) (a b : α) :
    (cells.filter fun cell => cell.1 != a).lookup b = if b == a then none else cells.lookup b := by
  induction cells with
  | nil => simp
  | cons cell rest ih =>
    obtain ⟨key, value⟩ := cell
    by_cases hk : key = a
    · subst hk
      cases hb : b == key <;> simpa [List.lookup_cons, hb] using ih
    · have hne : (key != a) = true := by simp [hk]
      cases hb : b == key
      · simpa [List.filter_cons, hne, List.lookup_cons, hb] using ih
      · rw [LawfulBEq.eq_of_beq hb]
        simp [hk]

theorem get?_clear (sheet : Worksheet) (p q : CellPosition) :
    (sheet.clear p).get? q = if q = p then none else sheet.get? q := by
  simpa [get?, clear] using lookup_filter_ne sheet.cells p q

theorem get?_set (sheet : Worksheet) (p q : CellPosition) (content : Content) :
    (sheet.set p content).get? q = if q = p then some content else sheet.get? q := by
  by_cases h : q = p
  · simp [get?, set, h]
  · have hqp : (q == p) = false := by simp [h]
    have hclear := get?_clear sheet p q
    rw [if_neg h] at hclear ⊢
    rw [← hclear]
    simp [get?, set, List.lookup_cons, hqp]

end Worksheet

inductive Sheet
  | worksheet (sheet : Worksheet)
  | chart (title : String)

def Sheet.title : Sheet → String
  | worksheet sheet => sheet.title
  | chart title => title

structure Workbook where
  sheets : List Sheet
  /-- The number of the active sheet, counted from 0, or from the end by negative numbers. -/
  active : Int

namespace Workbook

def find? (book : Workbook) (title : String) : Option Sheet := book.sheets.find? (·.title == title)

def activeSheet? (book : Workbook) : Option Sheet :=
  let index := if book.active < 0 then book.active + book.sheets.length else book.active
  if index < 0 then none else book.sheets[index.toNat]?

/-- Changes the sheet of a title. -/
def modify (book : Workbook) (title : String) (change : Worksheet → Worksheet) : Workbook :=
  { book with sheets := book.sheets.map fun
      | .worksheet sheet => .worksheet (if sheet.title = title then change sheet else sheet)
      | chart => chart }

/-- Puts a sheet in front of the sheet with a number, or at the end. -/
def insert (book : Workbook) (sheet : Sheet) (index : Option Int) : Workbook :=
  let count := book.sheets.length
  let place := match index with
    | none => count
    | some i => if i < 0 then (i + count).toNat else min i.toNat count
  { book with sheets := book.sheets.take place ++ sheet :: book.sheets.drop place }

/-- Removes the sheet of a title; the number of the active sheet stays. -/
def remove (book : Workbook) (title : String) : Workbook :=
  { book with sheets := book.sheets.filter (·.title != title) }

end Workbook

end GridCalc
