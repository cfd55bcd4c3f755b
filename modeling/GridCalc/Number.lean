import GridCalc.Double.Arithmetic
import GridCalc.Double.Power
import GridCalc.Double.Notation

/-!
# Numbers

A number is an integer of any size or a double. Integers are added, subtracted and multiplied exactly; as soon as a
double takes part, and in every power, the integers become doubles first, which fails for those that are too large.
A quotient of integers is the double nearest to it.

* `Number.lt` compares exactly, without any rounding; NaN is below nothing and nothing is below NaN.
* `Number.writable`: integers of more than 4300 digits have no text.
-/

namespace GridCalc

inductive Number
  | int (n : Int)
  | real (d : Double)
  deriving DecidableEq

/-- Why an operation on numbers has no result. -/
inductive ArithmeticFault
  | divisionByZero
  /-- An integer is too large for a double. -/
  | integerTooLarge
  /-- A quotient of integers is too large for a double. -/
  | quotientTooLarge
  /-- A power of a negative number is not real. -/
  | notReal
  deriving DecidableEq

namespace Number

instance : Inhabited Number := ⟨int 0⟩

/-- An integer or a finite double. -/
def isFinite : Number → Bool
  | int _ => true
  | real d => d.isFinite

/-! ## Arithmetic -/

def toDouble : Number → Except ArithmeticFault Double
  | real d => .ok d
  | int n =>
    let d := Double.ofInt n
    if d.isFinite then .ok d else .error .integerTooLarge

/-- Integers go through an exact operation, all else through an operation on doubles. -/
def lift (onInts : Int → Int → Int) (onDoubles : Double → Double → Double) :
    Number → Number → Except ArithmeticFault Number
  | int m, int n => .ok (int (onInts m n))
  | x, y => do return real (onDoubles (← x.toDouble) (← y.toDouble))

def add : Number → Number → Except ArithmeticFault Number := lift (· + ·) Double.add

def sub : Number → Number → Except ArithmeticFault Number := lift (· - ·) Double.sub

def mul : Number → Number → Except ArithmeticFault Number := lift (· * ·) Double.mul

/-- The double nearest to a quotient of integers; where the operands differ in sign, even a zero is negative. -/
def intQuotient (m n : Int) : Except ArithmeticFault Double :=
  if n = 0 then .error .divisionByZero
  else
    let d := Double.ofRatio (decide (m < 0) ^^ decide (n < 0)) m.natAbs n.natAbs
    if d.isFinite then .ok d else .error .quotientTooLarge

def div : Number → Number → Except ArithmeticFault Number
  | int m, int n => do return real (← intQuotient m n)
  | x, y => do
    let dividend ← x.toDouble
    let divisor ← y.toDouble
    if divisor.isZero then throw .divisionByZero
    return real (dividend.div divisor)

/-- Powers are taken of doubles. -/
def pow (x y : Number) : Except ArithmeticFault Number := do
  let base ← x.toDouble
  let exponent ← y.toDouble
  match base.pow exponent with
  | .ok d => return real d
  | .error .zeroToNegative => throw .divisionByZero
  | .error .notReal => throw .notReal

def neg : Number → Number
  | int n => int (-n)
  | real d => real d.neg

@[simp] theorem neg_neg (x : Number) : x.neg.neg = x := by
  cases x <;> simp [neg]

/-! ## Order -/

/-- A place on the extended line, counted in units of 2^-1074. -/
inductive Place
  | bottom
  | units (n : Int)
  | top
  deriving DecidableEq

def Place.lt : Place → Place → Bool
  | bottom, bottom => false
  | bottom, _ => true
  | units m, units n => m < n
  | units _, top => true
  | _, _ => false

/-- Where a number stands; NaN stands nowhere. -/
def place? : Number → Option Place
  | int n => some (.units (n * Double.oneUnits))
  | real .nan => none
  | real (.infinite negative) => some (if negative then .bottom else .top)
  | real (.finite negative u _) => some (.units (signed negative u))

def lt (x y : Number) : Bool :=
  match x.place?, y.place? with
  | some p, some q => p.lt q
  | _, _ => false

/-! ## Text -/

/-- The most digits an integer may have where it is read or written. -/
def digitLimit : Nat := 4300

/-- An integer short enough to be written. -/
def intWritable (n : Int) : Bool := n.natAbs < Nat.pow 10 digitLimit

def writable : Number → Bool
  | int n => intWritable n
  | real _ => true

/-- The digits of an integer after its sign. -/
def intText (n : Int) : String :=
  String.ofList (if n < 0 then '-' :: Nat.toDigits 10 n.natAbs else Nat.toDigits 10 n.natAbs)

def text : Number → String
  | int n => intText n
  | real d => d.text

end Number

end GridCalc
