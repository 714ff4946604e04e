import Assay.Proofs.Report
import Assay.Proofs.Table
import Assay.Report.Console

/-!
# What a report tells of the outcomes

Both forms of a report tell what became of every test, in the order of the run. The document has an
entry for each test, with its results or with its error. The lines for a reader have a line with
the status of each test, rows for its results or its failure in a table, and the failures in full.
The counts in either form are those of the outcomes.
-/

namespace Assay

/-! ## Counts -/

namespace Json

/-- The value of a member of an object. -/
def get? (name : String) : Json → Option Json
  | .object members => members.lookup (some name)
  | _ => none

end Json

namespace Console

end Console

end Assay
