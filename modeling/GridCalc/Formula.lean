import GridCalc.Value

/-!
# Formulas

The tree of a formula. Literals and addresses still are texts; a value may also stand in the tree itself.
-/

namespace GridCalc

inductive Formula
  | literal (kind text : String)
  | address (text : String) (sheet : Option String)
  | array (rows : List (List Formula))
  | intersection (operands : List Formula)
  | union (operands : List Formula)
  | span (operands : List Formula)
  | signs (tokens : List String) (operand : Formula)
  | percent (operand : Formula) (token : String)
  | binary (left : Formula) (token : String) (right : Formula)
  | value (v : Value)

instance : Inhabited Formula := ⟨.value .empty⟩

end GridCalc
