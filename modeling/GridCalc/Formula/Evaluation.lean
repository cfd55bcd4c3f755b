import GridCalc.Formula
import GridCalc.Reference.Address
import GridCalc.Reference.Algebra
import GridCalc.Resolution

/-!
# Evaluation of formulas

* `Engine.operand`: the value or the reference that a node of a formula stands for. Operands are evaluated from left to
  right, each with all its reads and calls before the next.
* `Engine.evaluate`: the value of a formula. A formula error that aborts the evaluation is the value; every other
  fault is reported.
-/

namespace GridCalc

namespace Engine

/-- A value as a node: only a reference may stand in a formula. -/
def node (v : Value) : Except Fault Value :=
  match v with
  | .reference ref => .ok (.reference ref)
  | v => Fault.raise (.invalid (.nodeType v.qualifiedKind))

variable (engine : Engine)

mutual

def operand : Formula → Run Value
  | .literal kind text => Literal.value kind text
  | .address text sheet => return .reference (← Reference.parse text sheet)
  | .array rows => return .list (← arrayRows rows)
  | .intersection operands => do return .reference (← GridCalc.intersection (← operandList operands))
  | .union operands => do engine.union (← operandList operands)
  | .span operands => do return .reference (← GridCalc.span (← operandList operands))
  | .signs tokens formula => do engine.applySigns tokens (← operand formula)
  | .percent formula token => do engine.applyPercent (← operand formula) token
  | .binary left token right => do
    let leftValue ← operand left
    let rightValue ← operand right
    engine.applyInfix leftValue token rightValue
  | .value v => node v

def operandList : List Formula → Run (List Value)
  | [] => return []
  | formula :: rest => do
    let first ← operand formula
    return first :: (← operandList rest)

/-- The entries of one row of an array, each read before the next is evaluated. -/
def arrayRow : List Formula → Run (List Value)
  | [] => return []
  | formula :: rest => do
    let first ← engine.resolve (← operand formula)
    return first :: (← arrayRow rest)

def arrayRows : List (List Formula) → Run (List Value)
  | [] => return []
  | row :: rest => do
    let first ← arrayRow row
    return .list first :: (← arrayRows rest)

end

/-- A formula error becomes a value. -/
def catchFormulaError (outcome : Except Fault Value) : Except Fault Value :=
  match outcome with
  | .error (.formula cause) => .ok (.error cause.kind)
  | other => other

/-- The value of a formula, with the record of what was asked for. -/
def evaluate (formula : Formula) : Except Fault Value × Record :=
  let (outcome, record) := ((do engine.resolve (← engine.operand formula)) : Run Value).run.run Record.empty
  (catchFormulaError outcome, record)

end Engine

end GridCalc
