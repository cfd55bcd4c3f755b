import GridCalc.Value
import GridCalc.Reference.Box
import GridCalc.Text.Quoted

/-!
# Values in messages

How a value stands inside a message: `display` shows its structure, with texts in quotes; `shown` is the same but for a
formula error or a text by itself, which stand there bare. `kindName` and `qualifiedKind` tell what kind of value it is.
-/

namespace GridCalc

open Text

/-- An optional part in a message. -/
def displayOption {α : Type} (display : α → String) : Option α → String
  | none => "None"
  | some a => display a

/-- A named structure with its fields. -/
def displayFields (name : String) (fields : List (String × String)) : String :=
  name ++ "(" ++ ", ".intercalate (fields.map fun (field, value) => field ++ "=" ++ value) ++ ")"

def RangeEnd.display (e : RangeEnd) : String :=
  displayFields "RangeEnd"
    [("col", displayOption Number.intText e.col), ("row", displayOption Number.intText e.row),
      ("address", displayOption quoted e.address)]

def Reference.kindName : Reference → String
  | cell _ => "CellReference"
  | range _ => "RangeReference"

def Reference.display (ref : Reference) : String :=
  match ref with
  | cell r => displayFields ref.kindName
      [("col", Number.intText r.col), ("row", Number.intText r.row), ("sheet", displayOption quoted r.sheet),
        ("address", displayOption quoted r.address)]
  | range r => displayFields ref.kindName
      [("start", r.first.display), ("end", r.last.display), ("sheet", displayOption quoted r.sheet),
        ("address", displayOption quoted r.address)]

def Box.display (b : Box) : String :=
  displayFields "BoundingBox"
    [("min_row", displayOption Number.intText b.rows.low?), ("max_row", displayOption Number.intText b.rows.high?),
      ("min_col", displayOption Number.intText b.cols.low?), ("max_col", displayOption Number.intText b.cols.high?),
      ("sheet", displayOption quoted b.sheet)]

/-- Texts between brackets. -/
def bracketed (items : List String) : String := "[" ++ ", ".intercalate items ++ "]"

/-- Texts between parentheses; a single one is followed by a comma. -/
def parenthesized : List String → String
  | [item] => "(" ++ item ++ ",)"
  | items => "(" ++ ", ".intercalate items ++ ")"

def displayBool (b : Bool) : String := if b then "True" else "False"

namespace Value

mutual

def display : Value → String
  | empty => "None"
  | bool b => displayBool b
  | number n => n.text
  | text s => quoted s
  | error kind => displayFields "ErrorValue" [("kind", quoted kind)]
  | list items => bracketed (displayAll items)
  | collection items => displayFields "Collection" [("values", parenthesized (displayAll items))]
  | reference ref => displayFields "ReferenceNode" [("ref", ref.display)]
  | bearer _ => "Duck"
  | classified v isArray => displayFields "Resolved" [("value", display v), ("is_array", displayBool isArray)]
  | bare items => parenthesized (displayAll items)
  | bareReference ref => ref.display

def displayAll : List Value → List String
  | [] => []
  | v :: rest => display v :: displayAll rest

end

def shown : Value → String
  | error kind => kind
  | text s => s
  | v => display v

/-- The kind of a value that was found in the wrong place. -/
def kindName : Value → String
  | empty => "NoneType"
  | bool _ => "bool"
  | number (.int _) => "int"
  | number (.real _) => "float"
  | text _ => "str"
  | error _ => "ErrorValue"
  | list _ => "list"
  | collection _ => "Collection"
  | reference _ => "ReferenceNode"
  | bearer _ => "Duck"
  | classified .. => "Resolved"
  | bare _ => "tuple"
  | bareReference ref => ref.kindName

/-- The kind of a value together with the place where the kind is defined, for the kinds that are not basic. -/
def qualifiedKind (v : Value) : String :=
  match v with
  | error _ => "formula_refs.types." ++ v.kindName
  | collection _ | reference _ | bareReference _ => "formula_refs.ast." ++ v.kindName
  | classified .. => "formula_refs.resolver." ++ v.kindName
  | v => v.kindName

end Value

end GridCalc
