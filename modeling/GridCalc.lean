import GridCalc.Proofs.Formula.Aborting
import GridCalc.Proofs.Formula.Concatenation
import GridCalc.Proofs.Formula.Dependence
import GridCalc.Proofs.Formula.Entrywise
import GridCalc.Proofs.Formula.Exactness
import GridCalc.Proofs.Formula.Plain
import GridCalc.Proofs.Formula.Progress
import GridCalc.Proofs.Formula.Qualification
import GridCalc.Proofs.Formula.SignChains
import GridCalc.Proofs.Operator.Arithmetic
import GridCalc.Proofs.Operator.Coherence
import GridCalc.Proofs.Operator.Collection
import GridCalc.Proofs.Operator.Extent
import GridCalc.Proofs.Operator.Negation
import GridCalc.Proofs.Operator.Order
import GridCalc.Proofs.Operator.Propagation
import GridCalc.Proofs.Operator.Transposition
import GridCalc.Proofs.Reference.Acceptance
import GridCalc.Proofs.Reference.Combination
import GridCalc.Proofs.Reference.Naming
import GridCalc.Proofs.Reference.Span
import GridCalc.Proofs.Workbook.Block
import GridCalc.Proofs.Workbook.Intersection
import GridCalc.Proofs.Workbook.OpenRange
import GridCalc.Reference.Box.Ends
import GridCalc.Session
import GridCalc.Proofs.Column.Letters
import GridCalc.Proofs.Operator.Associativity
import GridCalc.Proofs.Numeral.Literal
import GridCalc.Proofs.Shape
import GridCalc.Proofs.Workbook.Normalization
import GridCalc.Proofs.Numeral.RoundTrip
