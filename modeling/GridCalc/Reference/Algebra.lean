import GridCalc.Fault

/-!
# The algebra of references

References combine by their boxes.

* `Box.intersect`: the common part of two boxes on one sheet; an unset sheet is a sheet of its own.
* `Box.span`: the least box around both, on no sheet.
* `intersection`, `span`: the same for operands of a formula, none of which may be anything but a reference.
-/

namespace GridCalc

namespace Box

/-- Some cell lies in both boxes. -/
def meets (b c : Box) : Bool := b.sheet == c.sheet && b.rows.overlaps c.rows && b.cols.overlaps c.cols

def intersect (b c : Box) : Except Fault Box :=
  if b.meets c then .ok ⟨b.rows.narrow c.rows, b.cols.narrow c.cols, b.sheet⟩
  else Fault.raise (.formula (.disjoint b c))

def span (b c : Box) : Box := ⟨b.rows.widen c.rows, b.cols.widen c.cols, none⟩

/-- A box as a range. -/
def toRange (b : Box) : Reference :=
  .range
    { first := ⟨b.cols.low?, b.rows.low?, none⟩
      last := ⟨b.cols.high?, b.rows.high?, none⟩
      sheet := b.sheet
      address := none }

/-- A box as a reference: a box of one cell is that cell. -/
def toReference (b : Box) : Reference :=
  match b.rows.single?, b.cols.single? with
  | some row, some col => .cell { col, row, sheet := b.sheet, address := none }
  | _, _ => b.toRange

end Box

/-! ## References of values -/

/-- The reference that a value bears. -/
def Value.borne : Value → Except Fault Reference
  | .reference ref | .bearer ref => .ok ref
  | v => Fault.raise (.lacks v.kindName "ref")

/-- Whether a range consists of whole columns, and of whole rows. A cell is no range. -/
def Reference.rangeKind : Reference → Except Fault (Bool × Bool)
  | .range r => .ok (r.isColumnRange, r.isRowRange)
  | ref => Fault.raise (.lacks ref.kindName "is_column_range")

/-- The box of an operand. -/
def Value.box : Value → Except Fault Box
  | .reference ref => .ok ref.box
  | v => Fault.raise (.formula (.notReference v))

/-- The boxes of all operands, the first of which has to be there. -/
def operandBoxes (operator : RangeOperator) (operands : List Value) : Except Fault (Box × List Box) :=
  match operands with
  | [] => Fault.raise (.malformedReference (.noOperands operator))
  | first :: rest => do return (← first.box, ← rest.mapM Value.box)

/-- The common part of all operands. -/
def intersection (operands : List Value) : Except Fault Reference := do
  let (first, rest) ← operandBoxes .intersect operands
  return (← rest.foldlM Box.intersect first).toReference

/-- The least range around all operands. -/
def span (operands : List Value) : Except Fault Reference := do
  let (first, rest) ← operandBoxes .span operands
  return (rest.foldl Box.span { first with sheet := none }).toRange

end GridCalc
