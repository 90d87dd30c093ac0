import JobCluster.File.Tree

/-!
# Patterns of paths

A pattern is matched segment by segment (`Segment`). In a segment `?` stands for one character, `*`
for any characters, and `[…]` or `[!…]` for one character in or outside a set; the segment `**`
stands for any directories. `expand` lists what a pattern finds in a tree, in the order of the
names.
-/

namespace JobCluster.Input

open JobCluster.File

/-- The characters of a set, from one to another. -/
structure CharRange where
  low : Char
  high : Char
deriving DecidableEq, Repr

/-- Whether a set holds a character. -/
def inRanges (rs : List CharRange) (c : Char) : Bool := rs.any fun r => r.low ≤ c && c ≤ r.high

/-- What a segment of a pattern is made of. -/
inductive Token where
  | char (c : Char)
  | anyChar
  | anySequence
  | within (set : List CharRange)
  | outside (set : List CharRange)
deriving DecidableEq, Repr

/-- The one character that a token stands for. -/
def Token.literal? : Token → Option Char
  | .char c => some c
  | _ => none

/-- A segment of a pattern. -/
inductive Segment where
  | directories
  | tokens (ts : List Token)
deriving DecidableEq, Repr

/-- Reads the inside of brackets: `x-y` is a range, any other character stands for itself. -/
def readRanges : List Char → List CharRange
  | a :: '-' :: b :: rest => ⟨a, b⟩ :: readRanges rest
  | a :: rest => ⟨a, a⟩ :: readRanges rest
  | [] => []

/-- The characters up to a closing bracket, and those after it. The first character is in the set
even if it is a bracket. -/
def readSet : List Char → Option (List Char × List Char)
  | [] => none
  | first :: rest =>
    match rest.dropWhile (· != ']') with
    | [] => none
    | _ :: after => some (first :: rest.takeWhile (· != ']'), after)

/-- What follows a set is shorter than what it was read from. -/
theorem length_readSet {cs inside after : List Char} (h : readSet cs = some (inside, after)) :
    after.length < cs.length := by
  cases cs with
  | nil => simp [readSet] at h
  | cons first rest =>
    have hle := (List.dropWhile_sublist (l := rest) (· != ']')).length_le
    cases hd : rest.dropWhile (· != ']') with
    | nil => simp [readSet, hd] at h
    | cons c tail =>
      simp only [readSet, hd, Option.some.injEq, Prod.mk.injEq] at h
      rw [hd] at hle
      rw [← h.2]
      simp only [List.length_cons] at hle ⊢
      omega

/-- Reads the tokens of a segment; `none` for two stars in a row or an unclosed bracket. -/
def readTokens : List Char → Option (List Token)
  | [] => some []
  | '?' :: rest => (readTokens rest).map (.anyChar :: ·)
  | '*' :: '*' :: _ => none
  | '*' :: rest => (readTokens rest).map (.anySequence :: ·)
  | '[' :: '!' :: rest =>
    match _h : readSet rest with
    | some (inside, after) => (readTokens after).map (.outside (readRanges inside) :: ·)
    | none => none
  | '[' :: rest =>
    match _h : readSet rest with
    | some (inside, after) => (readTokens after).map (.within (readRanges inside) :: ·)
    | none => none
  | c :: rest => (readTokens rest).map (.char c :: ·)
termination_by cs => cs.length
decreasing_by
  all_goals simp only [List.length_cons]
  all_goals first
    | omega
    | (have hlen := length_readSet _h; omega)

/-- Reads a segment. -/
def Segment.read (s : String) : Option Segment :=
  if s = "**" then some .directories else (readTokens s.toList).map .tokens

/-- Whether tokens match a name. -/
def matchTokens : List Token → List Char → Bool
  | [], cs => cs.isEmpty
  | .anySequence :: ts, [] => matchTokens ts []
  | .anySequence :: ts, c :: cs => matchTokens ts (c :: cs) || matchTokens (.anySequence :: ts) cs
  | _ :: _, [] => false
  | .char a :: ts, c :: cs => a = c && matchTokens ts cs
  | .anyChar :: ts, _ :: cs => matchTokens ts cs
  | .within set :: ts, c :: cs => inRanges set c && matchTokens ts cs
  | .outside set :: ts, c :: cs => ! inRanges set c && matchTokens ts cs

namespace Segment

/-- Whether a segment matches the name of an entry. -/
def matchesName : Segment → String → Bool
  | .directories, _ => true
  | .tokens ts, name => matchTokens ts name.toList

/-- The one name that a segment stands for, if it has no special characters. -/
def literal? : Segment → Option String
  | .directories => none
  | .tokens ts => (ts.mapM Token.literal?).map String.ofList

/-- Of `.` and `..`, those that a segment asks for: it has to start with a dot itself. -/
def dots : Segment → List String
  | .tokens (.char '.' :: ts) => ["..", "."].filter fun s => matchTokens (.char '.' :: ts) s.toList
  | _ => []

end Segment

/-- Reads the segments of a pattern. Several `**` in a row are one. -/
def readPattern : List String → Option (List Segment)
  | [] => some []
  | s :: rest => do
    let segment ← Segment.read s
    let segments ← readPattern rest
    match segment, segments with
    | .directories, .directories :: _ => pure segments
    | _, _ => pure (segment :: segments)

/-- Whether a text has a character that makes it a pattern. -/
def isPattern (s : String) : Bool := s.toList.any fun c => c = '*' || c = '?' || c = '['

/-- A directory that a search could not look into. -/
structure SearchFault where
  path : String
  fault : Fault
deriving DecidableEq, Repr

/-- The text of a failed search. -/
def SearchFault.message (f : SearchFault) : String :=
  "attempting to read `" ++ f.path ++ "` resulted in an error: " ++ f.fault.message

/-- What a search finds: a path, or a directory it could not look into. -/
abbrev Finding := Except SearchFault String

/-- The path of an entry in a directory. -/
def joinPath (directory name : String) : String :=
  if directory = "/" then "/" ++ name else directory ++ "/" ++ name

/-- Whether a path leads to an entry, or is a link that leads nowhere. -/
def isThere (t : Tree) (path : String) : Bool :=
  (t.find .follow path).isOk || (t.find .keep path).isOk

/-- What segments find from a path on. `depth` bounds how many directories deep `**` goes; a path
can have no more of them than characters. -/
def search (t : Tree) (depth : Nat) : List Segment → String → Bool → List Finding
  | [], _, _ => []
  | segment :: rest, path, isDirectory =>
    let go (next : String) : List Finding :=
      if rest.isEmpty then [.ok next] else search t depth rest next (t.leadsToDirectory next)
    match segment.literal? with
    | some name =>
      if isThere t (joinPath path name) then go (joinPath path name) else []
    | none =>
      if ! isDirectory then []
      else match t.list path with
        | .error fault => [.error ⟨path, fault⟩]
        | .ok entries =>
          let special := segment.dots.flatMap fun d => go (joinPath path d)
          special ++ entries.flatMap fun (name, entry) =>
            let here := joinPath path name
            let isDirectory := match entry with
              | .directory => true
              | .link _ => t.leadsToDirectory here
              | .file _ => false
            match segment with
            | .directories =>
              let below := match depth with
                | 0 => []
                | depth + 1 =>
                  if isDirectory then search t depth (.directories :: rest) here true else []
              match rest with
              | [] => if isDirectory then .ok here :: below else []
              | next :: later =>
                (if ! next.matchesName name then []
                  else if later.isEmpty then [.ok here]
                  else if isDirectory then search t depth later here true
                  else []) ++ below
            | _ =>
              if ! segment.matchesName name then []
              else if rest.isEmpty then [.ok here]
              else if isDirectory then search t depth rest here true
              else []
termination_by segments => (segments.length, depth)

/-- What the segments of a pattern find from the root on. -/
def expand (t : Tree) (segments : List Segment) : List Finding :=
  search t maxPathLength segments "/" true

end JobCluster.Input
