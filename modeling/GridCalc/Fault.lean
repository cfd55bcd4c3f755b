import GridCalc.Value.Display
import GridCalc.Numeral

/-!
# Faults

Everything that can go wrong, by its cause. A fault of the group `formula` is part of the language of formulas: it ends
the evaluation of a formula, which then has the error as its value. All others are reported as they are.

* `Fault.message`: the wording of each cause.
* `Fault.raise`: reports a fault; an integer too long to be written makes the report itself fail.
-/

namespace GridCalc

open Text

/-- What a text was read as when it was no address. -/
inductive AddressForm
  | cell
  | columnRange
  | rowRange
  | any
  deriving DecidableEq

/-- The operators that combine references. -/
inductive RangeOperator
  | intersect
  | span
  deriving DecidableEq

/-- Where an operator stands relative to its operands. -/
inductive Position
  | before
  | after
  | amid
  deriving DecidableEq

/-- The families of operators between two operands. -/
inductive InfixFamily
  | comparison
  | concatenation
  | arithmetic
  deriving DecidableEq

/-- The families of operators: between two operands, in front of one, after one. -/
inductive Family
  | between (family : InfixFamily)
  | sign
  | percent
  deriving DecidableEq

inductive MalformedReference
  | address (form : AddressForm) (text : String)
  | noOperands (operator : RangeOperator)
  deriving DecidableEq

inductive UnrecognizedOperator
  /-- No family knows the operator in that position. -/
  | noFamily (position : Position) (token : String)
  /-- The family does not know its operator. -/
  | unknown (family : Family) (token : String)
  /-- One of the signs in front of an operand is no sign. -/
  | notSigns (tokens : List String)
  deriving DecidableEq

inductive ReferenceNotFound
  | outside (row col : Int) (sheet : String)
  | noSheet (title : String)
  | noActiveSheet
  /-- The sheet that references are read from is a chart sheet. -/
  | chartSheet (title : String)
  deriving DecidableEq

inductive CoercionFault
  | untyped (value : Value)
  | textToNumber (text : String)
  | arrayToNumber
  | toNumber (value : Value)
  | arrayToText
  | toText (value : Value)
  | numberLiteral (text : String)

inductive FormulaFault
  /-- An error that the formula itself states. -/
  | stated (kind : ErrorKind)
  | notReference (value : Value)
  | disjoint (box other : Box)

inductive InvalidInput
  | numeral (cause : NumeralFault)
  /-- An integer has too many digits to be written. -/
  | tooManyDigits
  | irregularRows (widths : List Nat)
  | columnNumber (n : Int)
  | columnFlag (b : Bool)
  | literalKind (kind : String)
  | nodeType (name : String)
  | signalingNaN
  /-- A cell has a row or a column below 1. -/
  | cellPosition
  | notStorable (value : Value)

inductive MissingEntry
  | comparisonRank (type : ValueType)
  | family (family : Family)
  | arithmeticOperator (token : String)
  | sheet (title : String)
  /-- No result is kept under the name. -/
  | result (name : String)
  deriving DecidableEq

inductive MistypedInput
  /-- A value of this kind has no entries and cannot be used as an array. -/
  | noEntries (kind : String)
  /-- Two ends of boxes, at least one of which is not set, have no order. -/
  | unorderedEnds (relation : String) (left right : Option Int)

inductive Fault
  | malformedReference (cause : MalformedReference)
  | unrecognizedOperator (cause : UnrecognizedOperator)
  | referenceNotFound (cause : ReferenceNotFound)
  | coercion (cause : CoercionFault)
  | formula (cause : FormulaFault)
  | invalid (cause : InvalidInput)
  | missing (cause : MissingEntry)
  | arithmetic (cause : ArithmeticFault)
  /-- A thing of this kind has no such part. -/
  | lacks (kind part : String)
  | mistyped (cause : MistypedInput)

/-! ## Wording -/

namespace AddressForm

def noun : AddressForm → String
  | cell => "cell address"
  | columnRange => "column range"
  | rowRange => "row range"
  | any => "reference"

end AddressForm

namespace RangeOperator

def verb : RangeOperator → String
  | intersect => "intersect"
  | span => "span"

end RangeOperator

namespace Position

def adjective : Position → String
  | before => "prefix"
  | after => "postfix"
  | amid => "infix"

end Position

namespace Family

/-- The name under which the family is entered. -/
def name : Family → String
  | between .comparison => "COMPARISON"
  | between .concatenation => "CONCATENATION"
  | between .arithmetic => "ARITHMETIC"
  | sign => "PREFIX"
  | percent => "POSTFIX"

/-- The number of the family in the order of the families. -/
def rank : Family → Nat
  | between .comparison => 1
  | between .concatenation => 2
  | between .arithmetic => 3
  | sign => 4
  | percent => 5

def adjective : Family → String
  | between .comparison => "comparison"
  | between .concatenation => "concatenation"
  | between .arithmetic => "arithmetic"
  | sign => "prefix"
  | percent => "postfix"

end Family

def MalformedReference.message : MalformedReference → String
  | address form text => "Invalid " ++ form.noun ++ ": " ++ quoted text
  | noOperands operator => "Cannot " ++ operator.verb ++ " an empty list of references"

def UnrecognizedOperator.message : UnrecognizedOperator → String
  | noFamily position token => "Unrecognized " ++ position.adjective ++ " operator: " ++ quoted token
  | unknown family token => "Unknown " ++ family.adjective ++ " operator: " ++ token
  | notSigns tokens => "Unknown prefix operator in " ++ bracketed (tokens.map quoted)

def ReferenceNotFound.message : ReferenceNotFound → String
  | outside row col sheet =>
    "Cell (row " ++ Number.intText row ++ ", column " ++ Number.intText col ++ ") is outside of worksheet " ++ sheet
  | noSheet title => "Worksheet \"" ++ title ++ "\" not found."
  | noActiveSheet => "Workbook has no active worksheet"
  | chartSheet title => "Worksheet \"<Chartsheet \"" ++ title ++ "\">\" not found."

def CoercionFault.message : CoercionFault → String
  | untyped value => "Unknown Excel type for value: " ++ value.shown
  | textToNumber text => "Cannot convert text '" ++ text ++ "' to number"
  | arrayToNumber => "Cannot convert array to number"
  | toNumber value => "Cannot convert " ++ value.shown ++ " to number"
  | arrayToText => "Cannot convert array to text"
  | toText value => "Cannot convert " ++ value.shown ++ " to text"
  | numberLiteral text => "Invalid number literal: " ++ text

namespace FormulaFault

/-- The formula error that the fault becomes. -/
def kind : FormulaFault → ErrorKind
  | stated kind => kind
  | notReference _ => .value
  | disjoint .. => .null

def message : FormulaFault → String
  | stated kind => kind
  | notReference value => "Expected a reference, got " ++ value.display
  | disjoint box other => "No intersection between " ++ box.display ++ " and " ++ other.display

end FormulaFault

def InvalidInput.message : InvalidInput → String
  | numeral cause => cause.message
  | tooManyDigits =>
    "Exceeds the limit (" ++ Number.intText Number.digitLimit ++
      " digits) for integer string conversion; use sys.set_int_max_str_digits() to increase the limit"
  | irregularRows widths =>
    "Array has irregular row lengths: " ++ bracketed (widths.map fun (width : Nat) => Number.intText width)
  | columnNumber n => "Invalid column index " ++ Number.intText n
  | columnFlag b => "Invalid column index " ++ displayBool b
  | literalKind kind => "Unknown literal kind: " ++ kind
  | nodeType name => "Unknown node type: <class '" ++ name ++ "'>"
  | signalingNaN => "cannot convert signaling NaN to float"
  | cellPosition => "Row or column values must be at least 1"
  | notStorable value => "Cannot convert " ++ value.display ++ " to Excel"

/-- The member of an enumeration, as it is shown where it is missed. -/
def displayMember (enumeration member : String) (rank : Nat) : String :=
  "<" ++ enumeration ++ "." ++ member ++ ": " ++ Number.intText rank ++ ">"

def MissingEntry.message : MissingEntry → String
  | comparisonRank type => displayMember "ExcelType" type.name type.rank
  | family f => displayMember "OperatorFamily" f.name f.rank
  | arithmeticOperator token => quoted token
  | sheet title => quoted ("Worksheet " ++ title ++ " does not exist.")
  | result name => quoted name

def MistypedInput.message : MistypedInput → String
  | noEntries kind => "'" ++ kind ++ "' object is not iterable"
  | unorderedEnds relation left right =>
    "'" ++ relation ++ "' not supported between instances of '" ++ endKind left ++ "' and '" ++ endKind right ++ "'"
where
  endKind : Option Int → String
    | some n => (Value.int n).kindName
    | none => Value.empty.kindName

def ArithmeticFault.message : ArithmeticFault → String
  | divisionByZero => "division by zero"
  | integerTooLarge => "int too large to convert to float"
  | quotientTooLarge => "integer division result too large for a float"
  | notReal => "power of a negative number is not real"

namespace Fault

/-- A chart sheet has no such part of a worksheet. -/
def chartLacks (part : String) : Fault := lacks "Chartsheet" part

def message : Fault → String
  | malformedReference cause => cause.message
  | unrecognizedOperator cause => cause.message
  | referenceNotFound cause => cause.message
  | coercion cause => cause.message
  | formula cause => cause.message
  | invalid cause => cause.message
  | missing cause => cause.message
  | arithmetic cause => cause.message
  | lacks kind part => "'" ++ kind ++ "' object has no attribute '" ++ part ++ "'"
  | mistyped cause => cause.message

/-! ## Reporting -/

/-- All integers that the message names are short enough to be written. -/
def writable : Fault → Bool
  | referenceNotFound (.outside row col _) => Number.intWritable row && Number.intWritable col
  | coercion (.untyped v) | coercion (.toNumber v) | coercion (.toText v) => v.writable
  | formula (.notReference v) => v.writable
  | formula (.disjoint box other) => box.writable && other.writable
  | invalid (.columnNumber n) => Number.intWritable n
  | invalid (.notStorable v) => v.writable
  | _ => true

/-- The fault that is reported: itself, unless its message cannot be written. -/
def reported (f : Fault) : Fault := if f.writable then f else invalid .tooManyDigits

def raise {α : Type} (f : Fault) : Except Fault α := .error f.reported

end Fault

end GridCalc
