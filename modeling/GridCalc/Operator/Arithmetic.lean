import GridCalc.Operator.Broadcast
import GridCalc.Value.Coercion

/-!
# Arithmetic

The operators on numbers, between two operands, in front of one and after one.

* `mathScalar`: `+ - * / ^` on two scalars. What cannot be a number makes `#VALUE!`, a division by zero `#DIV/0!`, and
  a result that is no finite number `#NUM!`.
* `signs`: a row of signs in front of an operand; only a minus asks for a number.
* `percent`: the hundredth part.
-/

namespace GridCalc

/-- The arithmetic operators between two operands. -/
inductive MathOperator
  | add
  | sub
  | mul
  | div
  | pow
  deriving DecidableEq

namespace MathOperator

def ofToken? : String → Option MathOperator
  | "+" => some add
  | "-" => some sub
  | "*" => some mul
  | "/" => some div
  | "^" => some pow
  | _ => none

def apply : MathOperator → Number → Number → Except ArithmeticFault Number
  | add => Number.add
  | sub => Number.sub
  | mul => Number.mul
  | div => Number.div
  | pow => Number.pow

end MathOperator

/-- The number of an operand, none if the operand cannot be one. -/
def number? (v : Value) : Except Fault (Option Number) :=
  match v.toNumber with
  | .ok n => .ok (some n)
  | .error (.coercion _) => .ok none
  | .error fault => .error fault

/-- The outcome of an operation as a value: only finite numbers are numbers here. -/
def mathResult : Except ArithmeticFault Number → Value
  | .ok n => if n.isFinite then .number n else .error .num
  | .error .divisionByZero => .error .divisionByZero
  | .error _ => .error .num

/-- An operator on two scalars. The operands are looked at before the operator is. -/
def mathScalar (left : Value) (token : String) (right : Value) : Except Fault Value :=
  unlessError (fun left right => do
    let x? ← number? left
    let y? ← number? right
    match x?, y? with
    | some x, some y =>
      match MathOperator.ofToken? token with
      | some operator => return mathResult (operator.apply x y)
      | none => Fault.raise (.missing (.arithmeticOperator token))
    | _, _ => return .error .value) left right

/-- The arithmetic family. -/
def arithmetic (left : Operand) (token : String) (right : Operand) : Except Fault Value :=
  if (MathOperator.ofToken? token).isSome then broadcast (fun l r => mathScalar l token r) left right
  else Fault.raise (.unrecognizedOperator (.unknown (.between .arithmetic) token))

/-! ## One operand -/

/-- An operation on the number of a value. An error stays what it is, and what cannot be a number becomes `#VALUE!`. -/
def onNumber (op : Number → Except Fault Number) : Value → Except Fault Value
  | .error kind => .ok (.error kind)
  | v => do
    match ← number? v with
    | some n => return .number (← op n)
    | none => return .error .value

def isSign (token : String) : Bool := token == "+" || token == "-"

/-- The signs on a scalar. Without a minus the value stays as it is, whatever it is. -/
def signScalar (tokens : List String) (v : Value) : Except Fault Value :=
  let negations := tokens.count "-"
  if negations = 0 then .ok v
  else onNumber (fun n => .ok (if negations % 2 = 1 then n.neg else n)) v

/-- The family of signs in front of an operand. -/
def signs (tokens : List String) (operand : Operand) : Except Fault Value :=
  if tokens.all isSign then mapEntries (signScalar tokens) operand
  else Fault.raise (.unrecognizedOperator (.notSigns tokens))

def hundredth (n : Number) : Except Fault Number :=
  match n.div (.int 100) with
  | .ok q => .ok q
  | .error fault => Fault.raise (.arithmetic fault)

/-- The family of the percent sign after an operand. -/
def percent (operand : Operand) (token : String) : Except Fault Value :=
  if token = "%" then mapEntries (onNumber hundredth) operand
  else Fault.raise (.unrecognizedOperator (.unknown .percent token))

end GridCalc
