import GridCalc.Fault

/-!
# The shape of arrays

An array is a list of rows, or a list of entries that stands for a single row.

* `rowsOf`: an array as a list of rows; a list that holds anything but lists is one row.
* `Value.shape`: height and width of an array, 1 × 1 for all other values, or the widths that do not agree.
-/

namespace GridCalc

/-- Rows of entries. -/
abbrev Rows := List (List Value)

/-- All rows of an array are lists, or none is looked into. -/
def allRows? : List Value → Option Rows
  | [] => some []
  | .list row :: rest => (allRows? rest).map (row :: ·)
  | _ :: _ => none

/-- The rows of an array; a list that is empty or holds anything but lists is a single row. -/
def rowsOf (items : List Value) : Rows :=
  match items, allRows? items with
  | _ :: _, some rows => rows
  | _, _ => [items]

/-- The width of a row; an entry that is no list is one wide. -/
def rowWidth : Value → Nat
  | .list row => row.length
  | _ => 1

/-- The one width of all rows. -/
def commonWidth : List Nat → Except Fault Nat
  | [] => .ok 0
  | width :: rest =>
    if rest.all (· == width) then .ok width else Fault.raise (.invalid (.irregularRows (width :: rest)))

/-- Height and width. -/
abbrev Shape := Nat × Nat

def Rows.shape (rows : Rows) : Except Fault Shape := do
  return (rows.length, ← commonWidth (rows.map List.length))

def listShape (items : List Value) : Except Fault Shape :=
  if items.isEmpty then .ok (0, 0)
  else if items.any Value.isList then return (items.length, ← commonWidth (items.map rowWidth))
  else .ok (1, items.length)

def Value.shape : Value → Except Fault Shape
  | list items => listShape items
  | _ => .ok (1, 1)

/-- Rows as a value. -/
def Rows.toValue (rows : Rows) : Value := .list (rows.map .list)

end GridCalc
