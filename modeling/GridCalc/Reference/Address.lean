import GridCalc.Column
import GridCalc.Text.Digit

/-!
# Addresses

The texts of references: a cell like `B12`, whole columns like `A:C`, whole rows like `1:3`, each coordinate with an
optional anchor `$` in front. Letters and digits are those of ASCII.

* `cellParts?`, `columnRangeParts?`, `rowRangeParts?`: the three forms, taken apart into letters and digits.
* `Reference.parseCell`, `Reference.parseColumnRange`, `Reference.parseRowRange`: the reference of one form.
* `Reference.parse`: the reference of whichever form the text has.
-/

namespace GridCalc

open Text

namespace Address

def isLetter (c : Char) : Bool := ('A' ≤ c && c ≤ 'Z') || ('a' ≤ c && c ≤ 'z')

def isAsciiDigit (c : Char) : Bool := '0' ≤ c && c ≤ '9'

/-- Drops an anchor in front. -/
def dropAnchor : List Char → List Char
  | '$' :: rest => rest
  | s => s

/-- Column letters, at most `most` of them. -/
def isColumn (most : Nat) (s : List Char) : Bool := s.all isLetter && !s.isEmpty && s.length ≤ most

/-- Row digits, the first of them not zero. -/
def isRow (s : List Char) : Bool := s.all isAsciiDigit && !s.isEmpty && s.head? != some '0'

/-- The two sides of the first colon. -/
def splitColon (s : List Char) : List Char × Option (List Char) :=
  match s.dropWhile (· != ':') with
  | _ :: rest => (s.takeWhile (· != ':'), some rest)
  | [] => (s, none)

/-- The letters and the digits of a cell address. -/
def cellParts? (s : List Char) : Option (List Char × List Char) :=
  let s := dropAnchor s
  let column := s.takeWhile isLetter
  let row := dropAnchor (s.dropWhile isLetter)
  if isColumn 3 column && isRow row then some (column, row) else none

/-- The two ends of a range whose ends have a form each, without their anchors. -/
def rangeParts? (isFirst isLast : List Char → Bool) (s : List Char) : Option (List Char × List Char) :=
  match splitColon s with
  | (first, some last) =>
    if isFirst (dropAnchor first) && isLast (dropAnchor last) then some (dropAnchor first, dropAnchor last) else none
  | (_, none) => none

/-- The letters of the two ends of a column range; the last column may have one letter more. -/
def columnRangeParts? (s : List Char) : Option (List Char × List Char) := rangeParts? (isColumn 3) (isColumn 4) s

/-- The digits of the two ends of a row range. -/
def rowRangeParts? (s : List Char) : Option (List Char × List Char) := rangeParts? isRow isRow s

/-- The row that digits spell; too many digits are not read. -/
def rowNumber (digits : List Char) : Except Fault Int :=
  if Number.digitLimit < digits.length then Fault.raise (.invalid (.numeral (.tooManyDigits digits.length)))
  else .ok (digitsValue digits)

def columnNumber (letters : List Char) : Int := Column.index (String.ofList letters)

end Address

namespace Reference

open Address

def malformed {α : Type} (form : AddressForm) (text : String) : Except Fault α :=
  Fault.raise (.malformedReference (.address form text))

def parseCell (text : String) (sheet : Option String) : Except Fault Reference :=
  match cellParts? text.toList with
  | some (column, row) => do
    return cell { col := columnNumber column, row := ← rowNumber row, sheet, address := some text }
  | none => malformed .cell text

def parseColumnRange (text : String) (sheet : Option String) : Except Fault Reference :=
  match columnRangeParts? text.toList with
  | some (first, last) =>
    let bound (letters : List Char) : RangeEnd :=
      { col := some (columnNumber letters), row := none, address := some (String.ofList letters) }
    .ok (range { first := bound first, last := bound last, sheet, address := some text })
  | none => malformed .columnRange text

def parseRowRange (text : String) (sheet : Option String) : Except Fault Reference :=
  match rowRangeParts? text.toList with
  | some (first, last) => do
    let bound (digits : List Char) : Except Fault RangeEnd := do
      return { col := none, row := some (← rowNumber digits), address := some (String.ofList digits) }
    return range { first := ← bound first, last := ← bound last, sheet, address := some text }
  | none => malformed .rowRange text

def parse (text : String) (sheet : Option String) : Except Fault Reference :=
  if (cellParts? text.toList).isSome then parseCell text sheet
  else if (columnRangeParts? text.toList).isSome then parseColumnRange text sheet
  else if (rowRangeParts? text.toList).isSome then parseRowRange text sheet
  else malformed .any text

end Reference

end GridCalc
