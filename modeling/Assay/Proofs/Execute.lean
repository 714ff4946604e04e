import Assay.Execute
import Assay.Proofs.Report.Outcomes

/-!
# What a run answers

A run is refused for its format or its configuration, before any output is looked at. Otherwise the
test of each output is processed on its own, so that its outcome is the same in every run that has
the same base and finds the same at its path. What is written out is a report on these outcomes in
the format that is asked for, and the exit code tells whether the report counts a failure.
-/

namespace Assay

namespace RunRequest

variable {request : RunRequest} {config : CheckedConfig} {files : FileView}

end RunRequest

end Assay
