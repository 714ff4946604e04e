import Assay.Text

/-!
# Paths

The last part of a path and what is left of it without its ending.
-/

namespace Assay.Path

/-- The names in a path. Empty parts and single points stand for nothing. -/
def parts (path : List Char) : List (List Char) :=
  (Text.splitBy (· == '/') path).filter fun part => !(part.isEmpty || part == ['.'])

/-- What is left of a name without its ending: the last point that is not the first character, and
what follows it. -/
def stem (name : List Char) : List Char :=
  match name.reverse.dropWhile (· != '.') with
  | [] => name
  | [_] => name
  | _ :: before => before.reverse

/-- The name at the end of a path without its ending, if there is such a name. -/
def fileStem? (path : List Char) : Option (List Char) :=
  match (parts path).getLast? with
  | none => none
  | some name => if name == ['.', '.'] then none else some (stem name)

/-- The name of the test whose output is at a path. -/
def testName (path : String) : String :=
  match fileStem? path.toList with
  | some name => String.ofList name
  | none => path

end Assay.Path
