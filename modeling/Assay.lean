import Assay.Main
import Assay.Report.Decode
import Assay.Proofs.Evaluation.Cycle
import Assay.Proofs.Evaluation.Solution
import Assay.Proofs.Evaluation.Interruption
import Assay.Proofs.Evaluation.Modularity
import Assay.Proofs.Evaluation.Repetition
import Assay.Proofs.Expr.Substitution
import Assay.Proofs.Grammar.Nesting
import Assay.Proofs.Grammar.Offence
import Assay.Proofs.Matcher
import Assay.Proofs.Config
import Assay.Proofs.Process
import Assay.Proofs.Evaluation.Missing
import Assay.Proofs.Decimal
import Assay.Proofs.Execute
import Assay.Proofs.Json.Literal
import Assay.Proofs.Json.Double
import Assay.Proofs.Json.Reader
import Assay.Proofs.Json.Value
import Assay.Proofs.Report
import Assay.Proofs.Expectation
import Assay.Proofs.Expr.Extreme
import Assay.Proofs.Expr.Power
import Assay.Proofs.Expr.Rounding
import Assay.Proofs.Expr.Alias
import Assay.Proofs.Expr.Spacing
import Assay.Proofs.Grammar.FreeName
import Assay.Proofs.Expr.Quotation
import Assay.Proofs.Expr.Display
import Assay.Proofs.Grammar.Leaf
import Assay.Proofs.Expr.Numeral
import Assay.Proofs.Expr.Overflow
import Assay.Proofs.Expr.Equality
import Assay.Proofs.Config.Problem
import Assay.Proofs.Process.Reading
import Assay.Proofs.Text
import Assay.Proofs.Expr.Placement
import Assay.Proofs.Grammar.Bounds
import Assay.Proofs.Expr.Excerpt
import Assay.Proofs.Expr.Coverage
import Assay.Proofs.Grammar.Balance
