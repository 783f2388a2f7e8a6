import AccessHarness.Json.Basic
import AccessHarness.Url.Basic

/-!
# Transcripts

What the harness did, as data: the requests it sent, each with what came back, and the
times it slept.

* `Request` and `Reply` are the two sides of an exchange.
* `Transcript` is the list of what happened, the latest first.

**A reply is what the HTTP client returns.**  The model begins at the call the harness
makes of that client and ends at what the client hands back.  The redirects it follows on
the way, its time limit, the encryption of a connection and what it makes of user names in
a URL belong to the client: of all that only the reply is seen.

### What is load-bearing

A transcript is all that a later answer of a platform may depend on, and all that a
statement about a run needs to look at.  Programs add to it and never take away
(`Environment` in `AccessHarness.Session.Basic`).
-/

namespace AccessHarness

/-- What a request carries. -/
inductive Body where
  | empty
  /-- A document, sent in compact form. -/
  | json (document : Json)
  /-- Plain text. -/
  | text (content : String)
  /-- Raw bytes. -/
  | bytes (content : List UInt8)
  deriving DecidableEq

namespace Body

/-- The content type that goes with a body. -/
def contentType? : Body → Option String
  | .empty => none
  | .json _ => some "application/json"
  | .text _ => some "text/plain"
  | .bytes _ => some "application/octet-stream"

end Body

/-- A request as it leaves the harness. -/
structure Request where
  method : String
  url : Url
  /-- Header fields by lower-case name. -/
  headers : List (String × String)
  body : Body
  deriving DecidableEq

/-- An answer: status and body. -/
structure Response where
  status : Nat
  body : String
  deriving DecidableEq, Repr

/-- What the HTTP client returns for a request. -/
inductive Reply where
  /-- No connection could be opened: the request reached nobody. -/
  | unreachable
  /-- The connection was closed without an answer. -/
  | dropped
  /-- An answer. -/
  | answered (response : Response)
  deriving DecidableEq, Repr

/-- Something that happened. -/
inductive Event where
  /-- A request was sent and this came back. -/
  | exchanged (request : Request) (reply : Reply)
  /-- Time was let pass. -/
  | slept (duration : Nat)
  deriving DecidableEq

/-- **What happened so far**, the latest first. -/
abbrev Transcript := List Event

namespace Transcript

/-- The time slept so far. -/
def slept : Transcript → Nat
  | [] => 0
  | .slept d :: t => slept t + d
  | .exchanged _ _ :: t => slept t

/-- The exchanges, the earliest first. -/
def exchanges (t : Transcript) : List (Request × Reply) :=
  t.reverse.filterMap fun
    | .exchanged request reply => some (request, reply)
    | .slept _ => none

/-- The requests that reached a platform, the earliest first. -/
def delivered (t : Transcript) : List Request :=
  (t.exchanges.filter fun x => x.2 != .unreachable).map (·.1)

end Transcript

end AccessHarness
