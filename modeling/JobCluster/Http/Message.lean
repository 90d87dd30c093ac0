import JobCluster.Json.Value

/-!
# Requests and answers over HTTP

The parts of requests and answers that the protocol uses: method, target, the headers for version
and media type, and a body.
-/

namespace JobCluster.Http

open JobCluster.Json

/-- A request. The target is a path and maybe a query, as sent. -/
structure Request where
  method : String
  target : String
  version : Option String
  mediaType : Option String
  body : String
deriving DecidableEq, Repr

/-- What an answer carries. -/
inductive Body where
  | empty
  | json (value : Value)
  | text (s : String)
deriving Repr

/-- An answer. -/
structure Response where
  status : Nat
  version : Option String
  body : Body
deriving Repr

/-- The text of a header, if it can be read: it has to be visible ASCII, blanks and tabs included.
-/
def readableHeader (s : String) : Option String :=
  if s.toList.all fun c => (32 ≤ c.toNat && c.toNat < 127) || c = '\t' then some s else none

/-- A target without a fragment. -/
def withoutFragment (target : String) : List Char := target.toList.takeWhile (· != '#')

namespace Request

/-- The path of a request, without its query. -/
def path (r : Request) : String := String.ofList ((withoutFragment r.target).takeWhile (· != '?'))

/-- The query of a request, empty if there is none. -/
def query (r : Request) : String :=
  String.ofList (((withoutFragment r.target).dropWhile (· != '?')).drop 1)

end Request

/-- Whether a status says that a request was carried out. -/
def isSuccess (status : Nat) : Bool := 200 ≤ status && status < 300

/-- The standard phrase for a status. -/
def reasonPhrase? : Nat → Option String
  | 100 => some "Continue"
  | 101 => some "Switching Protocols"
  | 102 => some "Processing"
  | 200 => some "OK"
  | 201 => some "Created"
  | 202 => some "Accepted"
  | 203 => some "Non Authoritative Information"
  | 204 => some "No Content"
  | 205 => some "Reset Content"
  | 206 => some "Partial Content"
  | 207 => some "Multi-Status"
  | 208 => some "Already Reported"
  | 226 => some "IM Used"
  | 300 => some "Multiple Choices"
  | 301 => some "Moved Permanently"
  | 302 => some "Found"
  | 303 => some "See Other"
  | 304 => some "Not Modified"
  | 305 => some "Use Proxy"
  | 307 => some "Temporary Redirect"
  | 308 => some "Permanent Redirect"
  | 400 => some "Bad Request"
  | 401 => some "Unauthorized"
  | 402 => some "Payment Required"
  | 403 => some "Forbidden"
  | 404 => some "Not Found"
  | 405 => some "Method Not Allowed"
  | 406 => some "Not Acceptable"
  | 407 => some "Proxy Authentication Required"
  | 408 => some "Request Timeout"
  | 409 => some "Conflict"
  | 410 => some "Gone"
  | 411 => some "Length Required"
  | 412 => some "Precondition Failed"
  | 413 => some "Payload Too Large"
  | 414 => some "URI Too Long"
  | 415 => some "Unsupported Media Type"
  | 416 => some "Range Not Satisfiable"
  | 417 => some "Expectation Failed"
  | 418 => some "I'm a teapot"
  | 421 => some "Misdirected Request"
  | 422 => some "Unprocessable Entity"
  | 423 => some "Locked"
  | 424 => some "Failed Dependency"
  | 425 => some "Too Early"
  | 426 => some "Upgrade Required"
  | 428 => some "Precondition Required"
  | 429 => some "Too Many Requests"
  | 431 => some "Request Header Fields Too Large"
  | 451 => some "Unavailable For Legal Reasons"
  | 500 => some "Internal Server Error"
  | 501 => some "Not Implemented"
  | 502 => some "Bad Gateway"
  | 503 => some "Service Unavailable"
  | 504 => some "Gateway Timeout"
  | 505 => some "HTTP Version Not Supported"
  | 506 => some "Variant Also Negotiates"
  | 507 => some "Insufficient Storage"
  | 508 => some "Loop Detected"
  | 510 => some "Not Extended"
  | 511 => some "Network Authentication Required"
  | _ => none

end JobCluster.Http
