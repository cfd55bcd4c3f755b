import GridCalc.Reference.Algebra

/-!
# Boxes given by their ends

A box may be given by its ends, each of which may be set or not. Where it has a low end but no high end, it cannot be
compared with another box that has a low end.

* `Axis.withEnds`: the extent with two given ends.
* `Box.intersectGiven`, `Box.spanGiven`: the common part and the least box around both, of boxes that are given so.
-/

namespace GridCalc

namespace Axis

def withEnds : Option Int → Option Int → Axis
  | some low, some high => between low high
  | some low, none => atLeast low
  | none, some high => atMost high
  | none, none => unbounded

def unordered (relation : String) (left right : Option Int) : Except Fault Unit :=
  Fault.raise (.mistyped (.unorderedEnds relation left right))

/-- Whether two axes overlap can be told: first by the low end of the second against the high end of the first, and if
that does not part them, the other way round. -/
def checkOverlap : Axis → Axis → Except Fault Unit
  | atLeast _, between low _ | atLeast _, atLeast low => unordered ">" (some low) none
  | between low high, atLeast low' => if high < low' then .ok () else unordered "<" none (some low)
  | _, _ => .ok ()

/-- The greater of the two high ends can be told. -/
def checkWiden : Axis → Axis → Except Fault Unit
  | between _ high, atLeast _ => unordered ">" none (some high)
  | atLeast _, between _ high => unordered ">" (some high) none
  | atLeast _, atLeast _ => unordered ">" none none
  | _, _ => .ok ()

end Axis

namespace Box

/-- Rows are looked at only on one sheet, and columns only where the rows overlap. -/
def checkMeets (b c : Box) : Except Fault Unit := do
  if b.sheet = c.sheet then
    b.rows.checkOverlap c.rows
    if b.rows.overlaps c.rows then b.cols.checkOverlap c.cols

def intersectGiven (b c : Box) : Except Fault Box := do
  b.checkMeets c
  b.intersect c

def spanGiven (b c : Box) : Except Fault Box := do
  b.rows.checkWiden c.rows
  b.cols.checkWiden c.cols
  return b.span c

end Box

end GridCalc
