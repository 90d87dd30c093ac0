import JobCluster.Http.Message

/-!
# Media types

A media type is `type/subtype` with parameters (`MediaType.read`). A body is taken as JSON when its
media type is `application/json` or an application type with the suffix `+json`, in any case.
-/

namespace JobCluster.Http

/-- A type and a subtype, in lower case. -/
structure MediaType where
  type : String
  subtype : String
deriving DecidableEq, Repr

/-- Whether a character may stand in a name. -/
def isTokenChar (c : Char) : Bool :=
  c.isAlphanum || "!#$%&'*+-.^_`|~".toList.contains c

/-- Reads a parameter's value that is not quoted, and gives what follows it and its semicolon. -/
def readPlainValue (cs : List Char) : Option (List Char) :=
  match cs.dropWhile isTokenChar with
  | [] => some []
  | ';' :: rest => if (cs.takeWhile isTokenChar).isEmpty then none else some rest
  | _ => none

/-- Reads what is left of a quoted value after its opening quote; it is not empty. -/
def readQuotedValue (cs : List Char) : Option (List Char) :=
  match cs with
  | [] => none
  | first :: more =>
    if first.toNat ≤ 31 || first.toNat = 127 then none
    else match more.dropWhile fun c => c != '"' && 31 < c.toNat && c.toNat != 127 with
      | '"' :: rest =>
        match rest.dropWhile (· = ' ') with
        | [] => some []
        | ';' :: rest => some rest
        | _ => none
      | _ => none

/-- Whether a text is a list of parameters; `fuel` is more than its length. -/
def readParameters : Nat → List Char → Bool
  | 0, _ => false
  | _, [] => true
  | fuel + 1, ' ' :: rest => readParameters fuel rest
  | fuel + 1, cs =>
    match cs.takeWhile isTokenChar, cs.dropWhile isTokenChar with
    | _ :: _, '=' :: '"' :: rest => (readQuotedValue rest).any (readParameters fuel)
    | _ :: _, '=' :: rest => (readPlainValue rest).any (readParameters fuel)
    | _, _ => false

namespace MediaType

/-- Reads a media type. -/
def read (s : String) : Option MediaType :=
  let cs := s.toList
  match cs.takeWhile isTokenChar, cs.dropWhile isTokenChar with
  | [], _ => none
  | type, '/' :: rest =>
    let subtype := rest.takeWhile isTokenChar
    let named : MediaType := ⟨(String.ofList type).toLower, (String.ofList subtype).toLower⟩
    match rest.dropWhile isTokenChar with
    | [] => some named
    | ';' :: parameters =>
      if subtype.isEmpty || ! readParameters (parameters.length + 1) parameters then none
      else some named
    | _ => none
  | _, _ => none

/-- The part of a subtype after its last plus sign, unless the plus sign is its first character. -/
def suffix? (m : MediaType) : Option String :=
  let cs := m.subtype.toList
  if (cs.drop 1).contains '+' then
    some (String.ofList (cs.reverse.takeWhile (· != '+')).reverse)
  else none

/-- The subtype up to the suffix. -/
def base (m : MediaType) : String :=
  match m.suffix? with
  | some suffix => String.ofList (m.subtype.toList.take (m.subtype.length - suffix.length - 1))
  | none => m.subtype

/-- Whether a body of the media type is JSON. -/
def isJson (m : MediaType) : Bool :=
  m.type == "application" && (m.base == "json" || m.suffix? == some "json")

end MediaType

/-- Whether a header announces a JSON body. -/
def announcesJson (header : Option String) : Bool :=
  ((header.bind readableHeader).bind MediaType.read).any MediaType.isJson

end JobCluster.Http
