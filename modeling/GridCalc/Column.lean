import GridCalc.Fault
import GridCalc.Text.Casing

/-!
# Column letters

Columns are numbered from 1 and named by letters: A to Z, AA to ZZ, AAA to ZZZ.

* `Column.index`: the number that the letters of a text spell, all other characters being skipped.
* `Column.letters`: the name of a column, for columns of up to three letters.
-/

namespace GridCalc.Column

open Text

/-- The value of a capital letter as a digit, A being 1. -/
def letterValue? (c : Char) : Option Nat :=
  if 'A' ≤ c ∧ c ≤ 'Z' then some (c.toNat - 'A'.toNat + 1) else none

/-- Letters as digits in base 26, from A for 1 to Z for 26. -/
def spelled (values : List Nat) : Nat := values.foldl (fun n value => n * 26 + value) 0

/-- The number that a text spells in capitals. -/
def index (s : String) : Nat := spelled ((upper s.toList).filterMap letterValue?)

/-- The last column that has a name, ZZZ. -/
def lastNamed : Int := 18278

def letterOf (value : Nat) : Char := Char.ofNat ('A'.toNat + value)

/-- The letters of a number, none for zero. -/
def spell (n : Nat) : List Char :=
  if n = 0 then [] else spell ((n - 1) / 26) ++ [letterOf ((n - 1) % 26)]
termination_by n
decreasing_by omega

def letters (n : Int) : Except Fault String :=
  if 1 ≤ n ∧ n ≤ lastNamed then .ok (String.ofList (spell n.toNat))
  else Fault.raise (.invalid (.columnNumber n))

/-- What may stand for a column: its number, its letters, or a truth value, where true means the first column. -/
inductive Designator
  | number (n : Int)
  | flag (b : Bool)
  | letters (s : String)
  deriving DecidableEq

namespace Designator

/-- Letters become the number that they spell; all else stays as it is. -/
def numbered : Designator → Designator
  | letters s => number (index s)
  | other => other

/-- The letters of the column; letters stay as they are. -/
def lettered : Designator → Except Fault String
  | letters s => .ok s
  | number n => Column.letters n
  | flag true => Column.letters 1
  | flag false => Fault.raise (.invalid (.columnFlag false))

end Designator

end GridCalc.Column
