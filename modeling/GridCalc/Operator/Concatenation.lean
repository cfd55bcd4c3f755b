import GridCalc.Operator.Broadcast
import GridCalc.Value.Coercion

/-!
# Concatenation

The texts of two values, one after the other.
-/

namespace GridCalc

def concatEntries : Value → Value → Except Fault Value :=
  unlessError fun left right => do return .text ((← left.toText) ++ (← right.toText))

/-- The concatenation family. -/
def concatenation (left : Operand) (token : String) (right : Operand) : Except Fault Value :=
  if token = "&" then broadcast concatEntries left right
  else Fault.raise (.unrecognizedOperator (.unknown (.between .concatenation) token))

end GridCalc
