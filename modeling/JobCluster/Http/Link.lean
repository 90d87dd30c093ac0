import JobCluster.Http.Message
import JobCluster.Text.Natural

/-!
# Links

A link carries requests to a server and brings its answers back, or fails (`Link`).
-/

namespace JobCluster.Http

open JobCluster.Text

/-- An answer as it arrives: its body is text. -/
structure Received where
  status : Nat
  version : Option String
  body : String
deriving DecidableEq, Repr

/-- An answer as it arrives. -/
def Received.ofResponse (r : Response) : Received :=
  ⟨r.status, r.version, match r.body with
    | .empty => ""
    | .json v => v.toText
    | .text s => s⟩

/-- A way to a server. It may change with each request, and it may be waited on. -/
structure Link (σ : Type) where
  exchange : Request → σ → Except String Received × σ
  pause : UInt64 → σ → σ

/-- A link over which nothing arrives. -/
def Link.unreachable (σ : Type) : Link σ where
  exchange _ s := (.error "error sending request", s)
  pause _ s := s

/-- What a status is called. -/
def statusText (status : Nat) : String :=
  decimal status ++ " " ++ (reasonPhrase? status).getD "<unknown status code>"

end JobCluster.Http
