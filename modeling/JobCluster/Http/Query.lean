import JobCluster.Text.Natural
import JobCluster.Text.Percent
import JobCluster.Text.Split

/-!
# Queries

The part of a target after the question mark: names and values, with `&` between pairs, plus signs
for blanks and percent escapes.
-/

namespace JobCluster.Http

open JobCluster.Text

/-- Reads a name or value. -/
def readFormText (cs : List Char) : String :=
  ofUtf8Lossy (percentDecode (cs.map fun c => if c = '+' then ' ' else c))

/-- The pairs of a query. A name without an equals sign has the empty value. -/
def readQuery (s : String) : List (String × String) :=
  ((splitOn '&' s.toList).filter (! ·.isEmpty)).map fun part =>
    (readFormText (part.takeWhile (· != '=')), readFormText ((part.dropWhile (· != '=')).drop 1))

/-- The values of a name. -/
def valuesOf (name : String) (pairs : List (String × String)) : List String :=
  (pairs.filter (·.1 == name)).map Prod.snd

/-- Reads a 32-bit word from a query, with a default if it is not there. It may be there only once.
-/
def readQueryWord (name : String) (default : UInt32) (pairs : List (String × String)) :
    Option UInt32 :=
  match valuesOf name pairs with
  | [] => some default
  | [v] => readWord32 v
  | _ => none

end JobCluster.Http
