import GridCalc.Fault

/-!
# Cell contents

What a cell may store, and how it is read: `Content.read` makes a scalar of it. Decimals become doubles, rich text loses
its formatting, a stored formula is read as its text, and dates and times are written out. A text that is the code of a
formula error is that error. `Entry.stored` is what a cell stores
when something is written to it.
-/

namespace GridCalc

/-! ## Decimals -/

/-- A decimal number as it may be stored. -/
inductive StoredDecimal
  | finite (negative : Bool) (digits : Nat) (exponent : Int)
  | infinite (negative : Bool)
  | nan (signaling : Bool)
  deriving DecidableEq

namespace StoredDecimal

/-- A decimal that is no number of the line, from its sign and its name in lower case. -/
def ofName? (negative : Bool) (name : List Char) : Option StoredDecimal :=
  if name = "inf".toList ∨ name = "infinity".toList then some (infinite negative)
  else
    let (signaling, name) := if name.head? = some 's' then (true, name.drop 1) else (false, name)
    if name.take 3 = "nan".toList ∧ (name.drop 3).all Text.isDigit then some (nan signaling) else none

/-- Reads a decimal; digits may be grouped by underscores. -/
def ofText? (text : String) : Option StoredDecimal :=
  let s := (Text.trim Text.isBlank text.toList).filter (· != '_')
  match Numeral.parts? s with
  | some p =>
    some (finite p.negative (Text.digitsValue (p.whole ++ p.fraction)) (p.exponent - p.fraction.length))
  | none =>
    let (negative, name) := Numeral.splitSign s
    ofName? negative (name.map Char.toLower)

/-- The nearest double. A signaling NaN is no double. -/
def toDouble : StoredDecimal → Except Fault Double
  | finite negative digits exponent => .ok (.ofDecimal negative digits exponent)
  | infinite negative => .ok (.infinite negative)
  | nan false => .ok .nan
  | nan true => Fault.raise (.invalid .signalingNaN)

end StoredDecimal

/-! ## Dates and times -/

/-- A natural number with zeros in front up to a width. -/
def paddedText (width n : Nat) : String :=
  let digits := Nat.toDigits 10 n
  String.ofList (List.replicate (width - digits.length) '0' ++ digits)

structure Date where
  year : Nat
  month : Nat
  day : Nat
  deriving DecidableEq

def Date.text (d : Date) : String := paddedText 4 d.year ++ "-" ++ paddedText 2 d.month ++ "-" ++ paddedText 2 d.day

/-- A fraction of a second, written only if there is one. -/
def fractionText (microsecond : Nat) : String := if microsecond = 0 then "" else "." ++ paddedText 6 microsecond

structure ClockTime where
  hour : Nat
  minute : Nat
  second : Nat
  microsecond : Nat
  deriving DecidableEq

def ClockTime.text (t : ClockTime) : String :=
  paddedText 2 t.hour ++ ":" ++ paddedText 2 t.minute ++ ":" ++ paddedText 2 t.second ++ fractionText t.microsecond

/-- A span of time. -/
structure Duration where
  microseconds : Int
  deriving DecidableEq

namespace Duration

def secondMicros : Nat := 1000000

def dayMicros : Nat := 86400 * secondMicros

/-- From days, seconds and microseconds of any sign and size. -/
def ofParts (days seconds microseconds : Int) : Duration :=
  ⟨days * dayMicros + seconds * secondMicros + microseconds⟩

/-- Whole days, counted downwards for a negative span, and the time that is left; hours are not padded. -/
def text (d : Duration) : String :=
  let days := d.microseconds.fdiv dayMicros
  let rest := (d.microseconds.fmod dayMicros).toNat
  let seconds := rest / secondMicros
  let dayText :=
    if days = 0 then ""
    else Number.intText days ++ (if days.natAbs = 1 then " day, " else " days, ")
  dayText ++ Number.intText (seconds / 3600 : Nat) ++ ":" ++ paddedText 2 (seconds / 60 % 60) ++ ":" ++
    paddedText 2 (seconds % 60) ++ fractionText (rest % secondMicros)

end Duration

/-! ## Contents -/

/-- A part of a rich text. -/
inductive RichPart
  | text (s : String)
  | int (n : Int)
  deriving DecidableEq

def RichPart.read : RichPart → Except Fault String
  | text s => .ok s
  | int n => if Number.intWritable n then .ok (Number.intText n) else .error (.invalid .tooManyDigits)

inductive Content
  | empty
  | bool (b : Bool)
  | number (n : Number)
  | text (s : String)
  | decimal (d : StoredDecimal)
  | rich (parts : List RichPart)
  /-- The text of a formula over an array, which may be missing. -/
  | arrayFormula (text : Option String)
  | date (d : Date)
  | dateTime (d : Date) (t : ClockTime)
  | time (t : ClockTime)
  | duration (d : Duration)
  deriving DecidableEq

namespace Content

/-- A value as a content: a cell stores no formula errors and nothing but scalars. -/
def ofValue : Value → Except Fault Content
  | .empty => .ok empty
  | .bool b => .ok (bool b)
  | .number n => .ok (number n)
  | .text s => .ok (text s)
  | v => Fault.raise (.invalid (.notStorable v))

/-- A stored text; the codes of the formula errors are errors. -/
def readText (s : String) : Value := if s ∈ ErrorKind.codes then .error s else .text s

/-- The scalar that a cell is read as. -/
def read : Content → Except Fault Value
  | empty => .ok .empty
  | bool b => .ok (.bool b)
  | number n => .ok (.number n)
  | text s => .ok (readText s)
  | decimal d => do return .real (← d.toDouble)
  | rich parts => do return readText (String.join (← parts.mapM RichPart.read))
  | arrayFormula none => .ok .empty
  | arrayFormula (some s) => .ok (readText s)
  | date d => .ok (.text d.text)
  | dateTime d t => .ok (.text (d.text ++ " " ++ t.text))
  | time t => .ok (.text t.text)
  | duration d => .ok (.text d.text)

end Content

/-- What is to be written to a cell. -/
inductive Entry
  | content (c : Content)
  | value (v : Value)

namespace Entry

/-- What a cell stores of an entry. -/
def stored : Entry → Except Fault Content
  | content c => .ok c
  | value v => Content.ofValue v

end Entry

end GridCalc
