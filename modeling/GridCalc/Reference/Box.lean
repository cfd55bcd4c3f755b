import GridCalc.Reference

/-!
# Boxes

The rectangle of a reference, on a sheet. An axis that a reference leaves open at an end is unbounded: it overlaps
everything and never narrows anything. A box that is given by its ends may also have an axis with one end only; a high
end alone does not bound it.

* `Axis.overlaps`, `Axis.narrow`, `Axis.widen`: two axes against each other.
* `Reference.box`: the rectangle of a reference, whatever the order of its corners.
-/

namespace GridCalc

/-- The extent of a rectangle along one direction. -/
inductive Axis
  | unbounded
  | between (low high : Int)
  /-- A low end only. -/
  | atLeast (low : Int)
  /-- A high end only, which bounds nothing. -/
  | atMost (high : Int)
  deriving DecidableEq

namespace Axis

/-- The extent between two ends in any order, unbounded if one is unset. -/
def ofEnds : Option Int → Option Int → Axis
  | some a, some b => between (min a b) (max a b)
  | _, _ => unbounded

def overlaps : Axis → Axis → Bool
  | between low high, between low' high' => !(high < low' || high' < low)
  | between _ high, atLeast low | atLeast low, between _ high => !(high < low)
  | _, _ => true

/-- The common part of two overlapping axes. -/
def narrow : Axis → Axis → Axis
  | unbounded, other | atMost _, other => other
  | axis, unbounded | axis, atMost _ => axis
  | between low high, between low' high' => between (max low low') (min high high')
  | between low high, atLeast low' | atLeast low', between low high => between (max low low') high
  | atLeast low, atLeast low' => atLeast (max low low')

/-- The least axis around both. -/
def widen : Axis → Axis → Axis
  | between low high, between low' high' => between (min low low') (max high high')
  | between low _, atLeast low' | atLeast low, between low' _ | atLeast low, atLeast low' => atLeast (min low low')
  | _, _ => unbounded

def low? : Axis → Option Int
  | unbounded | atMost _ => none
  | between low _ | atLeast low => some low

def high? : Axis → Option Int
  | unbounded | atLeast _ => none
  | between _ high | atMost high => some high

/-- The only coordinate on the axis, if its ends are equal. -/
def single? : Axis → Option Int
  | between low high => if low = high then some low else none
  | _ => none

/-- The axis holds a coordinate. -/
def Contains (axis : Axis) (n : Int) : Prop :=
  match axis with
  | unbounded | atMost _ => True
  | between low high => low ≤ n ∧ n ≤ high
  | atLeast low => low ≤ n

end Axis

/-- A rectangle on a sheet. -/
structure Box where
  rows : Axis
  cols : Axis
  sheet : Option String
  deriving DecidableEq

namespace Box

/-- All coordinates are short enough to be written. -/
def writable (b : Box) : Bool :=
  ([b.rows.low?, b.rows.high?, b.cols.low?, b.cols.high?].filterMap id).all Number.intWritable

end Box

def Reference.box : Reference → Box
  | cell r => ⟨.between r.row r.row, .between r.col r.col, r.sheet⟩
  | range r => ⟨.ofEnds r.first.row r.last.row, .ofEnds r.first.col r.last.col, r.sheet⟩

/-! ## Axes against coordinates -/

theorem Axis.contains_narrow {a b : Axis} {n : Int} : (a.narrow b).Contains n ↔ a.Contains n ∧ b.Contains n := by
  cases a <;> cases b <;> simp only [Axis.narrow, Axis.Contains, true_and, and_true] <;> omega

theorem Axis.contains_widen_left {a b : Axis} {n : Int} (h : a.Contains n) : (a.widen b).Contains n := by
  cases a <;> cases b <;> simp_all only [Axis.widen, Axis.Contains] <;> omega

end GridCalc
