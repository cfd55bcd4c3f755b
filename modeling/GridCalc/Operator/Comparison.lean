import GridCalc.Operator.Broadcast
import GridCalc.Value.Coercion

/-!
# Comparisons

Numbers are below texts and texts below truth values. Numbers compare exactly, texts by their lower case, code point by
code point; a number that is not comparable counts as equal. Nothing compares as the zero of the other side's type.

* `compareScalar`: the order of two scalars.
* `Relation`: the six comparison operators on top of it.
-/

namespace GridCalc

open Text

/-- Nothing stands for false, the empty text or zero, after the other side. -/
def fillEmpty (value other : Value) : Value :=
  match value, other with
  | .empty, .bool _ => .bool false
  | .empty, .text _ => .text ""
  | .empty, _ => .int 0
  | v, _ => v

/-- The place of a type in the order of values; errors and arrays have none. -/
def comparisonRank (type : ValueType) : Except Fault Nat :=
  match type with
  | .number => .ok 1
  | .text => .ok 2
  | .boolean => .ok 3
  | _ => Fault.raise (.missing (.comparisonRank type))

/-- The order of two texts, code point by code point. -/
def compareText : List Char → List Char → Ordering
  | [], [] => .eq
  | [], _ :: _ => .lt
  | _ :: _, [] => .gt
  | a :: s, b :: t => if a.toNat < b.toNat then .lt else if b.toNat < a.toNat then .gt else compareText s t

def compareNumber (x y : Number) : Ordering := if x.lt y then .lt else if y.lt x then .gt else .eq

def compareBool : Bool → Bool → Ordering
  | false, true => .lt
  | true, false => .gt
  | _, _ => .eq

/-- Two values of one type. -/
def compareAlike : Value → Value → Ordering
  | .number x, .number y => compareNumber x y
  | .text s, .text t => compareText (lower s.toList) (lower t.toList)
  | .bool a, .bool b => compareBool a b
  | _, _ => .eq

def compareScalar (left right : Value) : Except Fault Ordering := do
  let left' := fillEmpty left right
  let right' := fillEmpty right left
  let leftRank ← comparisonRank (← left'.typeOf)
  let rightRank ← comparisonRank (← right'.typeOf)
  if leftRank < rightRank then return .lt
  if rightRank < leftRank then return .gt
  return compareAlike left' right'

/-- The comparison operators. -/
inductive Relation
  | equal
  | unequal
  | less
  | lessOrEqual
  | greater
  | greaterOrEqual
  deriving DecidableEq

namespace Relation

def ofToken? : String → Option Relation
  | "=" => some equal
  | "<>" => some unequal
  | "<" => some less
  | "<=" => some lessOrEqual
  | ">" => some greater
  | ">=" => some greaterOrEqual
  | _ => none

def holds : Relation → Ordering → Bool
  | equal, o => o == .eq
  | unequal, o => o != .eq
  | less, o => o == .lt
  | lessOrEqual, o => o != .gt
  | greater, o => o == .gt
  | greaterOrEqual, o => o != .lt

end Relation

def compareEntries (relation : Relation) : Value → Value → Except Fault Value :=
  unlessError fun left right => do return .bool (relation.holds (← compareScalar left right))

/-- The comparison family. -/
def comparison (left : Operand) (token : String) (right : Operand) : Except Fault Value :=
  match Relation.ofToken? token with
  | some relation => broadcast (compareEntries relation) left right
  | none => Fault.raise (.unrecognizedOperator (.unknown (.between .comparison) token))

end GridCalc
