/-!
# Columns

Texts brought to a width by blanks at one end. A longer text is kept whole.
-/

namespace JobCluster.Text

/-- A text at the left of a column. -/
def padRight (width : Nat) (s : String) : String :=
  s ++ String.ofList (List.replicate (width - s.length) ' ')

/-- A text at the right of a column. -/
def padLeft (width : Nat) (s : String) : String :=
  String.ofList (List.replicate (width - s.length) ' ') ++ s

/-- Rows of two columns, the second one two blanks after the longest text of the first. -/
def twoColumns (rows : List (String × String)) : List String :=
  let width := (rows.map fun r => r.1.length).foldl max 0
  rows.map fun r => padRight width r.1 ++ "  " ++ r.2

end JobCluster.Text
