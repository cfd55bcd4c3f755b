import GridCalc.Double

/-!
# Arithmetic of doubles

Each operation takes the exact result of its finite operands and rounds it once. Zeros have signs: a product or
quotient takes the sign of its operands, a sum that vanishes is negative only if both terms are.
-/

namespace GridCalc.Double

def neg : Double → Double
  | nan => nan
  | infinite negative => infinite (!negative)
  | finite negative u h => finite (!negative) u h

@[simp] theorem neg_neg (d : Double) : d.neg.neg = d := by
  cases d <;> simp [neg]

def add : Double → Double → Double
  | nan, _ | _, nan => nan
  | infinite s, infinite t => if s = t then infinite s else nan
  | infinite s, finite .. => infinite s
  | finite .., infinite t => infinite t
  | finite s u _, finite t v _ =>
    let sum := signed s u + signed t v
    if sum = 0 then zero (s && t) else ofUnits (sum < 0) sum.natAbs 1

def sub (x y : Double) : Double := x.add y.neg

def mul : Double → Double → Double
  | nan, _ | _, nan => nan
  | infinite s, infinite t => infinite (s ^^ t)
  | infinite s, finite t v _ => if v = 0 then nan else infinite (s ^^ t)
  | finite s u _, infinite t => if u = 0 then nan else infinite (s ^^ t)
  | finite s u _, finite t v _ => ofUnits (s ^^ t) (u * v) oneUnits

/-- The quotient; by zero it is infinite, or not a number where the dividend is zero too. -/
def div : Double → Double → Double
  | nan, _ | _, nan => nan
  | infinite _, infinite _ => nan
  | infinite s, finite t _ _ => infinite (s ^^ t)
  | finite s _ _, infinite t => zero (s ^^ t)
  | finite s u _, finite t v _ =>
    if v = 0 then (if u = 0 then nan else infinite (s ^^ t)) else ofRatio (s ^^ t) u v

end GridCalc.Double
