import GridCalc.Operator.Arithmetic
import GridCalc.Operator.Comparison
import GridCalc.Operator.Concatenation

/-!
# Resolution of operands

References stay references until an operator needs a value. Then a lookup reads them, and the operator's family gets
the values.

* `Lookup`: what reads references, `Families`: what applies operators.
* `Run`: a computation that asks a lookup and calls families, with a record of both.
* `Engine.resolve`: an operand as a value, `Engine.union`: all operands as values.
* `Engine.applySigns`, `Engine.applyPercent`, `Engine.applyInfix`: the operators by their position.
-/

namespace GridCalc

/-- Reads references. -/
abbrev Lookup := Reference → Except Fault Value

/-- What a family is called with. -/
inductive Call
  | between (family : InfixFamily) (left : Operand) (token : String) (right : Operand)
  | signs (tokens : List String) (operand : Operand)
  | percent (operand : Operand) (token : String)

/-- What a family makes of two operands. -/
def InfixFamily.apply : InfixFamily → Operand → String → Operand → Except Fault Value
  | comparison => GridCalc.comparison
  | concatenation => GridCalc.concatenation
  | arithmetic => GridCalc.arithmetic

namespace Call

/-- The family that is called. -/
def family : Call → Family
  | between family .. => .between family
  | signs .. => .sign
  | percent .. => .percent

/-- What the family makes of its operands. -/
def apply : Call → Except Fault Value
  | between family left token right => family.apply left token right
  | signs tokens operand => GridCalc.signs tokens operand
  | percent operand token => GridCalc.percent operand token

end Call

/-- What applies operators; a family that is not at hand has no outcome. -/
abbrev Families := Call → Option (Except Fault Value)

namespace Families

def standard : Families := fun call => some call.apply

/-- Some of the families only. -/
def only (present : List Family) (families : Families) : Families :=
  fun call => if call.family ∈ present then families call else none

end Families

/-! ## Computations with a record -/

/-- What a computation asked for, in order. -/
structure Record where
  /-- The operands that were read through the lookup. -/
  requests : List Value
  calls : List Call

def Record.empty : Record := ⟨[], []⟩

abbrev Run := ExceptT Fault (StateM Record)

/-- What a lookup and the families make of the operands of a formula. -/
structure Engine where
  lookup : Lookup
  families : Families

namespace Engine

/-- Reads the reference of an operand. -/
def read (engine : Engine) (operand : Value) (ref : Reference) : Run Value := do
  modify fun record => { record with requests := record.requests ++ [operand] }
  engine.lookup ref

/-- An operand as a value: lists and collections are arrays, and what a reference is depends on what was read. -/
def classify (engine : Engine) (operand : Value) : Run Operand :=
  match operand with
  | .list items => return ⟨.list items, true⟩
  | .collection items => return ⟨.list items, true⟩
  | .reference ref | .bearer ref => return .ofValue (← engine.read operand ref)
  | v => return ⟨v, false⟩

def resolve (engine : Engine) (operand : Value) : Run Value := return (← engine.classify operand).value

/-- The values of all operands, in order. -/
def union (engine : Engine) (operands : List Value) : Run Value :=
  return .collection (← operands.mapM engine.resolve)

/-! ## Operators -/

def call (engine : Engine) (c : Call) : Run Value := do
  match engine.families c with
  | some outcome =>
    modify fun record => { record with calls := record.calls ++ [c] }
    outcome
  | none => Fault.raise (.missing (.family c.family))

def applySigns (engine : Engine) (tokens : List String) (operand : Value) : Run Value := do
  match tokens.find? (!isSign ·) with
  | some token => throw (.unrecognizedOperator (.noFamily .before token))
  | none => engine.call (.signs tokens (← engine.classify operand))

def applyPercent (engine : Engine) (operand : Value) (token : String) : Run Value := do
  if token != "%" then throw (.unrecognizedOperator (.noFamily .after token))
  engine.call (.percent (← engine.classify operand) token)

end Engine

/-- The family of an operator between two operands. -/
def infixFamily (token : String) : Except Fault InfixFamily :=
  if (Relation.ofToken? token).isSome then .ok .comparison
  else if token = "&" then .ok .concatenation
  else if (MathOperator.ofToken? token).isSome then .ok .arithmetic
  else Fault.raise (.unrecognizedOperator (.noFamily .amid token))

/-- The operands are read before the operator is looked at. -/
def Engine.applyInfix (engine : Engine) (left : Value) (token : String) (right : Value) : Run Value := do
  let leftOperand ← engine.classify left
  let rightOperand ← engine.classify right
  let family ← infixFamily token
  engine.call (.between family leftOperand token rightOperand)

end GridCalc
