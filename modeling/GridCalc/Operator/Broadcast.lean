import GridCalc.Value.Shape

/-!
# Broadcasting

An operation on scalars, extended to arrays entry by entry.

* `Operand`: a value and whether it is used as an array.
* `Rows.entry`: the entry of an array at a place, where a single row or column is repeated and everything further out
  is `#N/A`.
* `broadcast`: a binary operation on two operands, `mapEntries`: a unary one on one.
-/

namespace GridCalc

/-- A value that an operator receives. -/
structure Operand where
  value : Value
  isArray : Bool

namespace Operand

/-- The value alone tells whether it is an array. -/
def ofValue (v : Value) : Operand := ⟨v, v.isList⟩

/-- The rows of an operand. Used as an array, a text is the row of its characters, an error the row of its code and a
classified value the row of its two parts; a collection or a reference is the row of what it holds, as one entry. -/
def rows (o : Operand) : Except Fault Rows :=
  if o.isArray then
    match o.value with
    | .list items => .ok (rowsOf items)
    | .text s => .ok [s.toList.map fun c => .text (String.singleton c)]
    | .error kind => .ok [[.text kind]]
    | .classified v isArray => .ok [[v, .bool isArray]]
    | .collection items => .ok [[.bare items]]
    | .reference ref => .ok [[.bareReference ref]]
    | v => Fault.raise (.mistyped (.noEntries v.kindName))
  else .ok [[o.value]]

end Operand

/-- The entry at a row and a column. -/
def Rows.entry (rows : Rows) (row col : Nat) : Value :=
  let row := if rows.length = 1 then 0 else row
  let col := if (rows.headD []).length = 1 then 0 else col
  match rows[row]? with
  | some entries => entries[col]?.getD (.error .notAvailable)
  | none => .error .notAvailable

/-- The operation at every place of the common shape, row by row. -/
def zipRows (op : Value → Value → Except Fault Value) (left right : Rows) : Except Fault Rows := do
  let (leftHeight, leftWidth) ← left.shape
  let (rightHeight, rightWidth) ← right.shape
  (List.range (max leftHeight rightHeight)).mapM fun row =>
    (List.range (max leftWidth rightWidth)).mapM fun col => op (left.entry row col) (right.entry row col)

/-- The operation on two scalars, or on the entries of two operands of which one is an array. -/
def broadcast (op : Value → Value → Except Fault Value) (left right : Operand) : Except Fault Value :=
  if left.isArray || right.isArray then do return (← zipRows op (← left.rows) (← right.rows)).toValue
  else op left.value right.value

/-- The operation on a scalar, or on each entry of an array. -/
def mapEntries (op : Value → Except Fault Value) (operand : Operand) : Except Fault Value :=
  if operand.isArray then do return Rows.toValue (← (← operand.rows).mapM fun row => row.mapM op)
  else op operand.value

/-- The error that keeps an operator from looking at its operands: the leftmost error among them, or else `#VALUE!`
where one of them is an array. -/
def firstError (values : List Value) : Option ErrorKind :=
  match values.findSome? fun | .error kind => some kind | _ => none with
  | some kind => some kind
  | none => if values.any Value.isList then some .value else none

/-- An operation that is reached by operands without an error only. -/
def unlessError (op : Value → Value → Except Fault Value) (left right : Value) : Except Fault Value :=
  match firstError [left, right] with
  | some kind => .ok (.error kind)
  | none => op left right

end GridCalc
