import GridCalc.Number

/-!
# References

A reference names a cell or a rectangle of cells, on a named sheet or on the sheet that is current when it is read. The
coordinates are integers of any size and sign; an end of a range may leave its row or its column unset.
-/

namespace GridCalc

structure CellReference where
  col : Int
  row : Int
  sheet : Option String
  /-- The text that the reference was read from, if it was read. -/
  address : Option String
  deriving DecidableEq

structure RangeEnd where
  col : Option Int
  row : Option Int
  address : Option String
  deriving DecidableEq

structure RangeReference where
  first : RangeEnd
  last : RangeEnd
  sheet : Option String
  address : Option String
  deriving DecidableEq

namespace RangeReference

/-- A range of whole columns. -/
def isColumnRange (r : RangeReference) : Bool := r.first.row.isNone && r.last.row.isNone

/-- A range of whole rows. -/
def isRowRange (r : RangeReference) : Bool := r.first.col.isNone && r.last.col.isNone

end RangeReference

inductive Reference
  | cell (ref : CellReference)
  | range (ref : RangeReference)
  deriving DecidableEq

namespace Reference

def sheet : Reference → Option String
  | cell r => r.sheet
  | range r => r.sheet

/-- The coordinates that are set. -/
def coordinates : Reference → List Int
  | cell r => [r.col, r.row]
  | range r => [r.first.col, r.first.row, r.last.col, r.last.row].filterMap id

/-- All coordinates are short enough to be written. -/
def writable (r : Reference) : Bool := r.coordinates.all Number.intWritable

end Reference

end GridCalc
