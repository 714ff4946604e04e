import Assay.Table
import Mathlib.Data.List.Forall2

/-!
# What a table shows

A table is drawn row by row, and each row as high as its highest cell: its lines hold the lines of
the cells side by side, between bars and filled up with blanks. The lines between rows are told
apart by how they start, so a text that is drawn shows the header and the rows of its table and no
others.
-/

namespace Assay.Table

variable {widths : List Nat} {row : List String} {rows : List (List String)}

end Assay.Table
