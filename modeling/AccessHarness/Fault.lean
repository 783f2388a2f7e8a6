import AccessHarness.Duration
import AccessHarness.Text.Blank
import AccessHarness.Text.Case

/-!
# Faults

Everything that can go wrong while the harness works, by cause.  A verdict about access
rests on one distinction, drawn here once: an *authorization* fault says that the
platform refused the caller, every other fault says nothing about access.

* `Fault.ofResponse` classifies an answer that is no success.
* `Fault.message` is the wording of a fault.

**Withheld details.**  What exactly was wrong with a connection or with a document
depends on parts the harness does not control, so these two faults carry no text; in a
message three dots stand for it.
-/

namespace AccessHarness

namespace Status

/-- The standard phrase of a status. -/
def reason? : Nat → Option String
  | 100 => some "Continue"
  | 101 => some "Switching Protocols"
  | 102 => some "Processing"
  | 200 => some "OK"
  | 201 => some "Created"
  | 202 => some "Accepted"
  | 203 => some "Non Authoritative Information"
  | 204 => some "No Content"
  | 205 => some "Reset Content"
  | 206 => some "Partial Content"
  | 207 => some "Multi-Status"
  | 208 => some "Already Reported"
  | 226 => some "IM Used"
  | 300 => some "Multiple Choices"
  | 301 => some "Moved Permanently"
  | 302 => some "Found"
  | 303 => some "See Other"
  | 304 => some "Not Modified"
  | 305 => some "Use Proxy"
  | 307 => some "Temporary Redirect"
  | 308 => some "Permanent Redirect"
  | 400 => some "Bad Request"
  | 401 => some "Unauthorized"
  | 402 => some "Payment Required"
  | 403 => some "Forbidden"
  | 404 => some "Not Found"
  | 405 => some "Method Not Allowed"
  | 406 => some "Not Acceptable"
  | 407 => some "Proxy Authentication Required"
  | 408 => some "Request Timeout"
  | 409 => some "Conflict"
  | 410 => some "Gone"
  | 411 => some "Length Required"
  | 412 => some "Precondition Failed"
  | 413 => some "Payload Too Large"
  | 414 => some "URI Too Long"
  | 415 => some "Unsupported Media Type"
  | 416 => some "Range Not Satisfiable"
  | 417 => some "Expectation Failed"
  | 418 => some "I'm a teapot"
  | 421 => some "Misdirected Request"
  | 422 => some "Unprocessable Entity"
  | 423 => some "Locked"
  | 424 => some "Failed Dependency"
  | 425 => some "Too Early"
  | 426 => some "Upgrade Required"
  | 428 => some "Precondition Required"
  | 429 => some "Too Many Requests"
  | 431 => some "Request Header Fields Too Large"
  | 451 => some "Unavailable For Legal Reasons"
  | 500 => some "Internal Server Error"
  | 501 => some "Not Implemented"
  | 502 => some "Bad Gateway"
  | 503 => some "Service Unavailable"
  | 504 => some "Gateway Timeout"
  | 505 => some "HTTP Version Not Supported"
  | 506 => some "Variant Also Negotiates"
  | 507 => some "Insufficient Storage"
  | 508 => some "Loop Detected"
  | 510 => some "Not Extended"
  | 511 => some "Network Authentication Required"
  | _ => none

/-- Whether a number is a status at all. -/
def isValid (n : Nat) : Bool := 100 ≤ n && n ≤ 999

/-- Whether a status says that the request was carried out. -/
def isSuccess (n : Nat) : Bool := 200 ≤ n && n < 300

/-- Whether a status blames the server. -/
def isServerError (n : Nat) : Bool := 500 ≤ n && n < 600

/-- A status with its phrase. -/
def display (n : Nat) : String :=
  Nat.repr n ++ " " ++ (reason? n).getD "<unknown status code>"

end Status

/-- The kinds of fault. -/
inductive FaultKind where
  | timeout | authorization | unauthenticated | notFound | configuration | conflict
  | badRequest | transport | remote | decode | expectationFailed
  deriving DecidableEq, Repr

/-- The name of a kind of fault. -/
def FaultKind.name : FaultKind → String
  | .timeout => "Timeout"
  | .authorization => "Authorization"
  | .unauthenticated => "Unauthenticated"
  | .notFound => "NotFound"
  | .configuration => "Configuration"
  | .conflict => "Conflict"
  | .badRequest => "BadRequest"
  | .transport => "Transport"
  | .remote => "Remote"
  | .decode => "Decode"
  | .expectationFailed => "ExpectationFailed"

/-- **What went wrong.** -/
inductive Fault where
  /-- A wait ended without its condition: what was waited for, what was last seen, and
  how long it took. -/
  | timeout (what last : String) (elapsed : Nat)
  /-- The platform refused the caller for lack of privileges. -/
  | authorization (text : String)
  /-- The platform does not know the caller. -/
  | unauthenticated (text : String)
  /-- What was asked for does not exist, or not yet. -/
  | notFound (text : String)
  /-- The harness was told something it cannot work with. -/
  | configuration (text : String)
  /-- What was to be created exists. -/
  | conflict (text : String)
  /-- The platform does not understand the request. -/
  | badRequest (text : String)
  /-- No answer came. -/
  | transport
  /-- Any other answer that is no success. -/
  | remote (status : Nat) (text : String)
  /-- An answer is not of the expected form. -/
  | decode
  /-- A check of a scenario failed. -/
  | expectation (text : String)
  deriving DecidableEq, Repr

namespace Fault

/-- The kind of a fault. -/
def kind : Fault → FaultKind
  | .timeout .. => .timeout
  | .authorization _ => .authorization
  | .unauthenticated _ => .unauthenticated
  | .notFound _ => .notFound
  | .configuration _ => .configuration
  | .conflict _ => .conflict
  | .badRequest _ => .badRequest
  | .transport => .transport
  | .remote .. => .remote
  | .decode => .decode
  | .expectation _ => .expectationFailed

/-- The wording of a fault. -/
def message : Fault → String
  | .timeout what last elapsed =>
    "timed out after " ++ Duration.shown elapsed ++ " waiting for " ++ what ++
      "; last observed: " ++ last
  | .authorization text => "authorization fault: " ++ text
  | .unauthenticated text => "unauthenticated: " ++ text
  | .notFound text => "not found: " ++ text
  | .configuration text => "configuration fault: " ++ text
  | .conflict text => "conflict: " ++ text
  | .badRequest text => "bad request: " ++ text
  | .transport => "transport fault: ..."
  | .remote status text => "remote error (HTTP " ++ Nat.repr status ++ "): " ++ text
  | .decode => "undecodable response: ..."
  | .expectation text => "expectation failed: " ++ text

/-- Whether the platform refused the caller. -/
def isAuthorization (f : Fault) : Bool := f.kind == .authorization

/-- Whether what was asked for is missing. -/
def isNotFound (f : Fault) : Bool := f.kind == .notFound

/-- **Not yet.**  A wait takes this fault for a condition that is not met yet. -/
def isRetryable (f : Fault) : Bool := f.isNotFound

/-- What the platform writes into a server error when a program was refused. -/
def refusalMarkers : List String :=
  ["unauthorizedexception", "is not authorized", "does not have privileges",
   "does not have sufficient privilege"]

/-- Whether a text holds one of the markers, in any case. -/
def carriesRefusal (text : String) : Bool :=
  let lowered := Text.lower text.toList
  refusalMarkers.any fun m => Text.occursIn m.toList lowered

/-- The text of an answer, or the standard phrase of its status where there is none. -/
def responseText (status : Nat) (body : String) : String :=
  if Text.isBlank body then (Status.reason? status).getD "no response body"
  else Text.trim body

/-- **Classify an answer that is no success.**  Statuses with a meaning of their own come
first; a server error is a refusal exactly when its text says so. -/
def ofResponse (status : Nat) (body : String) : Fault :=
  let text := responseText status body
  if status = 401 then .unauthenticated text
  else if status = 403 then .authorization text
  else if status = 404 then .notFound text
  else if status = 409 then .conflict text
  else if status = 400 then .badRequest text
  else if Status.isServerError status && carriesRefusal text then .authorization text
  else .remote status text

end Fault

/-- The outcome of an operation. -/
abbrev Outcome (α : Type) := Except Fault α

end AccessHarness
