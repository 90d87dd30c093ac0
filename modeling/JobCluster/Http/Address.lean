import JobCluster.Text.Percent
import JobCluster.Text.Split

/-!
# Addresses

Where requests are sent (`Address`): an origin, the segments of a path and maybe a query. Names are
put behind the path one segment each (`Address.extend`): what would end a segment or the path is
escaped, so that a name stays one segment. The two names that mean a directory are left out, and
tabs and line breaks are dropped from the others.
-/

namespace JobCluster.Http

open JobCluster.Text

/-- Where requests are sent. The segments are escaped already. -/
structure Address where
  origin : String
  path : List String
  query : Option String
deriving DecidableEq, Repr

/-- Whether a character is dropped from addresses. -/
def isDropped (c : Char) : Bool := c = '\t' || c = '\n' || c = '\r'

/-- Whether a character stands for itself in a path that is given as a whole. -/
def isPathChar (c : Char) : Bool :=
  0x20 < c.toNat && c.toNat < 0x7F && ! "\"<>`#?\x7b\x7d".toList.contains c

/-- Whether a character stands for itself in a single segment. -/
def isSegmentChar (c : Char) : Bool := isPathChar c && c ≠ '/' && c ≠ '%' && c ≠ '\\'

/-- Whether a character stands for itself in a query. -/
def isQueryChar (c : Char) : Bool := isPathChar c || "?`\x7b\x7d".toList.contains c

/-- Puts a segment behind a path that is not empty. A segment that is one or two dots once tabs and
line breaks are dropped is resolved. -/
def pushSegment (path : List String) (s : String) : List String :=
  if s = "." || s = ".." then path
  else
    let cs := s.toList.filter (! isDropped ·)
    if cs = ['.'] then path ++ [""]
    else if cs = ['.', '.'] then path.dropLast ++ [""]
    else path ++ [String.ofList (percentEncode isSegmentChar cs)]

/-- Resolves the dots of a path that is given as a whole. -/
def resolveDots (path : List String) (s : String) : List String :=
  let lower := s.toLower
  if [".", "%2e"].contains lower then path
  else if ["..", "%2e.", ".%2e", "%2e%2e"].contains lower then path.dropLast
  else path ++ [s]

/-- A text without the slashes at its end. -/
def trimSlashes (s : String) : String :=
  String.ofList (s.toList.reverse.dropWhile (· = '/')).reverse

namespace Address

/-- The address with more segments. -/
def extend (a : Address) (segments : List String) : Address :=
  { a with path := segments.foldl pushSegment a.path }

/-- The path and query as they are sent. -/
def target (a : Address) : String :=
  "/" ++ "/".intercalate a.path ++ match a.query with
    | some q => "?" ++ q
    | none => ""

/-- The address with more pairs in its query. -/
def withQuery (a : Address) (pairs : List (String × String)) : Address :=
  let added := "&".intercalate (pairs.map fun p => p.1 ++ "=" ++ p.2)
  { a with query := some (match a.query with
      | some "" | none => added
      | some q => q ++ "&" ++ added) }

/-- The schemes that requests can be sent by. -/
def schemes : List String := ["http", "https"]

/-- Reads an address of a host: a scheme, two slashes, the host with what belongs to it, and maybe
a path and a query. -/
def read (s : String) : Option Address := do
  let cs := s.toList.filter (! isDropped ·)
  let scheme := (String.ofList (cs.takeWhile (· ≠ ':'))).toLower
  if ! schemes.contains scheme then none
  match cs.dropWhile (· ≠ ':') with
  | ':' :: '/' :: '/' :: rest =>
    let isEnd (c : Char) : Bool := c = '/' || c = '?' || c = '#' || c = '\\'
    let host := rest.takeWhile (! isEnd ·)
    if host.isEmpty then none
    let rest := (rest.dropWhile (! isEnd ·)).takeWhile (· ≠ '#')
    let path := (rest.takeWhile (· ≠ '?')).map fun c => if c = '\\' then '/' else c
    let segments := ((splitOn '/' path).drop 1).map fun part =>
      String.ofList (percentEncode isPathChar part)
    let query := match rest.dropWhile (· ≠ '?') with
      | _ :: q => some (String.ofList (percentEncode isQueryChar q))
      | [] => none
    let resolved := segments.foldl resolveDots []
    let path := if resolved.getLast? = some "" then resolved.dropLast else resolved
    pure ⟨scheme ++ "://" ++ String.ofList host, path, query⟩
  | _ => none

end Address

end JobCluster.Http
