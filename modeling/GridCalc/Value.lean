import GridCalc.Reference

/-!
# Values

What a formula computes with. Besides the scalars and arrays that a sheet shows there are references that have not been
read yet, collections, the outcome of a union, and classified values, the outcome of asking what an operand is.

* `Value.type?`: the type of a value by which operators judge it; only scalars and lists have one.
* `Value.Plain`: scalars and lists, at any depth.
-/

namespace GridCalc

/-- The code of a formula error. -/
abbrev ErrorKind := String

namespace ErrorKind

def null : ErrorKind := "#NULL!"
def divisionByZero : ErrorKind := "#DIV/0!"
def value : ErrorKind := "#VALUE!"
def reference : ErrorKind := "#REF!"
def name : ErrorKind := "#NAME?"
def num : ErrorKind := "#NUM!"
def notAvailable : ErrorKind := "#N/A"

/-- The codes that are formula errors where they stand in a cell. -/
def codes : List ErrorKind := [null, divisionByZero, value, reference, name, num, notAvailable]

end ErrorKind

inductive Value
  | empty
  | bool (b : Bool)
  | number (n : Number)
  | text (s : String)
  | error (kind : ErrorKind)
  | list (items : List Value)
  /-- The values that a union gathered. -/
  | collection (items : List Value)
  | reference (ref : Reference)
  /-- Another object that bears a reference: it is read like one, but it is no operand of the range algebra. -/
  | bearer (ref : Reference)
  /-- A value and whether it is used as an array, kept together as one value. No operator looks inside it. -/
  | classified (value : Value) (isArray : Bool)
  /-- The values of a collection that is itself used as an array. -/
  | bare (items : List Value)
  /-- The cell or range of a reference that is itself used as an array. -/
  | bareReference (ref : Reference)

/-- The types of values, in the order in which they are numbered. -/
inductive ValueType
  | empty
  | number
  | text
  | boolean
  | error
  | array
  deriving DecidableEq

namespace Value

instance : Inhabited Value := ⟨empty⟩

abbrev int (n : Int) : Value := number (.int n)

abbrev real (d : Double) : Value := number (.real d)

def isList : Value → Bool
  | list _ => true
  | _ => false

def isError : Value → Bool
  | error _ => true
  | _ => false

def type? : Value → Option ValueType
  | empty => some .empty
  | bool _ => some .boolean
  | number _ => some .number
  | text _ => some .text
  | error _ => some .error
  | list _ => some .array
  | collection _ | reference _ | bearer _ | classified .. | bare _ | bareReference _ => none

/-- An empty, a boolean, a number, a text or a formula error. -/
def IsScalar : Value → Prop
  | empty | bool _ | number _ | text _ | error _ => True
  | _ => False

mutual

/-- Scalars and lists of plain values. -/
def Plain : Value → Prop
  | empty | bool _ | number _ | text _ | error _ => True
  | list items => PlainAll items
  | collection _ | reference _ | bearer _ | classified .. | bare _ | bareReference _ => False

def PlainAll : List Value → Prop
  | [] => True
  | v :: rest => Plain v ∧ PlainAll rest

end

mutual

/-- All integers within the value are short enough to be written. -/
def writable : Value → Bool
  | number n => n.writable
  | list items | collection items | bare items => writableAll items
  | reference ref | bareReference ref => ref.writable
  | classified v _ => writable v
  | empty | bool _ | text _ | error _ | bearer _ => true

def writableAll : List Value → Bool
  | [] => true
  | v :: rest => writable v && writableAll rest

end

end Value

namespace ValueType

/-- The name of the type and its number in the order of the types. -/
def name : ValueType → String
  | empty => "EMPTY"
  | number => "NUMBER"
  | text => "TEXT"
  | boolean => "BOOLEAN"
  | error => "ERROR"
  | array => "ARRAY"

def rank : ValueType → Nat
  | empty => 1
  | number => 2
  | text => 3
  | boolean => 4
  | error => 5
  | array => 6

end ValueType

end GridCalc
