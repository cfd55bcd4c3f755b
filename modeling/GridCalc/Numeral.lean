import GridCalc.Number
import GridCalc.Text.Blank
import GridCalc.Text.Digit
import GridCalc.Text.Quoted

/-!
# Numerals

The texts of numbers. A numeral with a point or an exponent is read as the nearest double, any other as an integer.
Blanks may stand around a numeral; its digits may be of any script.

* `Number.ofText`: reads a numeral, or tells why it is none.
* `readInteger`, `readReal`: the two grammars.
-/

namespace GridCalc

open Text

/-- Why a text is no numeral. -/
inductive NumeralFault
  /-- Digits may not be grouped by underscores. -/
  | grouped (text : String)
  | notInteger (text : String)
  | notReal (text : String)
  | tooManyDigits (count : Nat)
  deriving DecidableEq

namespace NumeralFault

/-- The number of characters of a quoted text that are shown for a bad integer. -/
def shownLength : Nat := 200

def message : NumeralFault → String
  | grouped text => "Invalid number: " ++ text
  | notInteger text =>
    "invalid literal for int() with base 10: " ++ String.ofList ((quoted text).toList.take shownLength)
  | notReal text => "could not convert string to float: " ++ quoted text
  | tooManyDigits count =>
    "Exceeds the limit (" ++ Number.intText Number.digitLimit ++
      " digits) for integer string conversion: value has " ++ Number.intText count ++
      " digits; use sys.set_int_max_str_digits() to increase the limit"

end NumeralFault

namespace Numeral

/-- Splits an optional sign off; true for a minus. -/
def splitSign : List Char → Bool × List Char
  | '-' :: rest => (true, rest)
  | '+' :: rest => (false, rest)
  | s => (false, s)

/-- Splits the digits at the front off. -/
def splitDigits (s : List Char) : List Char × List Char := (s.takeWhile isDigit, s.dropWhile isDigit)

/-- An optional sign and digits. The limit on their number comes before all other faults of the text. -/
def readInteger (text : String) : Except NumeralFault Int :=
  let (negative, unsigned) := splitSign (trim isNumeralBlank text.toList)
  let (digits, rest) := splitDigits unsigned
  if Number.digitLimit < digits.length then .error (.tooManyDigits digits.length)
  else if digits.isEmpty || !rest.isEmpty then .error (.notInteger text)
  else .ok (signed negative (digitsValue digits))

/-- An optional exponent mark with an exponent, at the end of a text. -/
def readExponent : List Char → Option Int
  | [] => some 0
  | mark :: rest =>
    if mark = 'e' ∨ mark = 'E' then
      let (negative, unsigned) := splitSign rest
      let (digits, rest') := splitDigits unsigned
      if digits.isEmpty || !rest'.isEmpty then none else some (signed negative (digitsValue digits))
    else none

/-- The parts of a decimal numeral. -/
structure Parts where
  negative : Bool
  whole : List Char
  fraction : List Char
  exponent : Int

/-- A sign, digits with a point among or after them or in front, and an exponent; the sign, the point and the exponent
may be missing, a digit may not. -/
def parts? (s : List Char) : Option Parts :=
  let (negative, unsigned) := splitSign s
  let (whole, rest) := splitDigits unsigned
  let (fraction, rest') := match rest with
    | '.' :: tail => splitDigits tail
    | tail => ([], tail)
  if whole.isEmpty && fraction.isEmpty then none
  else (readExponent rest').map fun exponent => { negative, whole, fraction, exponent }

end Numeral

/-- Beyond this decimal exponent of the first digit a decimal is infinite or zero as a double. -/
def Double.exponentBound : Int := 400

/-- The double nearest to `digits · 10 ^ exponent`. A decimal whose first digit stands far outside of the range of the
doubles is settled without its power of ten. -/
def Double.ofDecimal (negative : Bool) (digits : Nat) (exponent : Int) : Double :=
  let size := (Nat.toDigits 10 digits).length + exponent
  if digits = 0 || size < -exponentBound then zero negative
  else if exponentBound < size then infinite negative
  else if 0 ≤ exponent then ofRatio negative (digits * Nat.pow 10 exponent.toNat) 1
  else ofRatio negative digits (Nat.pow 10 (-exponent).toNat)

namespace Numeral

def Parts.toDouble (p : Parts) : Double :=
  .ofDecimal p.negative (digitsValue (p.whole ++ p.fraction)) (p.exponent - p.fraction.length)

def readReal (text : String) : Except NumeralFault Double :=
  match parts? (trim isNumeralBlank text.toList) with
  | some parts => .ok parts.toDouble
  | none => .error (.notReal text)

/-- A point or an exponent mark makes a numeral a double. -/
def isReal (s : List Char) : Bool := s.any fun c => c == '.' || c == 'e' || c == 'E'

end Numeral

def Number.ofText (text : String) : Except NumeralFault Number :=
  if text.toList.contains '_' then .error (.grouped text)
  else if Numeral.isReal text.toList then Number.real <$> Numeral.readReal text
  else Number.int <$> Numeral.readInteger text

end GridCalc
