import GridCalc.Fault
import GridCalc.Text.Casing

/-!
# Coercions

Values become numbers and texts where an operator asks for them, and the literals of a formula become values.

* `Value.toNumber`: nothing is 0, a truth value 0 or 1, a blank text 0, any other text the number it spells.
* `Value.toText`: nothing is the empty text, an integral double is written like the integer that it equals.
* `Literal.value`: what a literal of a formula stands for.
-/

namespace GridCalc

open Text

namespace Value

/-- The type of a value; only scalars and lists have one. -/
def typeOf (v : Value) : Except Fault ValueType :=
  match v.type? with
  | some type => .ok type
  | none => Fault.raise (.coercion (.untyped v))

def toNumber : Value → Except Fault Number
  | empty => .ok (.int 0)
  | bool b => .ok (.int (if b then 1 else 0))
  | number n => .ok n
  | text s =>
    let stripped := trim isBlank s.toList
    if stripped.isEmpty then .ok (.int 0)
    else match Number.ofText (String.ofList stripped) with
      | .ok n => .ok n
      | .error _ => Fault.raise (.coercion (.textToNumber s))
  | list _ => Fault.raise (.coercion .arrayToNumber)
  | v => Fault.raise (.coercion (.toNumber v))

/-- An integer in full, if it is short enough to be written. -/
def integerText (n : Int) : Except Fault String :=
  if Number.intWritable n then .ok (Number.intText n) else .error (.invalid .tooManyDigits)

def toText : Value → Except Fault String
  | empty => .ok ""
  | bool b => .ok (if b then "TRUE" else "FALSE")
  | number (.int n) => integerText n
  | number (.real d) =>
    match d.toInt? with
    | some n => integerText n
    | none => .ok d.text
  | text s => .ok s
  | list _ => Fault.raise (.coercion .arrayToText)
  | v => Fault.raise (.coercion (.toText v))

end Value

/-! ## Literals -/

namespace Literal

def number (text : String) : Except Fault Value :=
  match Number.ofText text with
  | .ok n => .ok (.number n)
  | .error _ => Fault.raise (.coercion (.numberLiteral text))

/-- A text without its first and its last character, the quotes. -/
def string (text : String) : String := String.ofList (text.toList.drop 1).dropLast

/-- Only capitals spell a truth value. -/
def boolean (text : String) : Bool := text == "TRUE"

/-- An error literal aborts the formula with the error that it names. -/
def error (text : String) : Fault := .formula (.stated (String.ofList (upper text.toList)))

/-- The value of a literal of a given kind. -/
def value (kind text : String) : Except Fault Value :=
  match kind with
  | "number" => number text
  | "string" => .ok (.text (string text))
  | "boolean" => .ok (.bool (boolean text))
  | "error" => Fault.raise (error text)
  | _ => Fault.raise (.invalid (.literalKind kind))

end Literal

end GridCalc
