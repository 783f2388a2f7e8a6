import AccessHarness.Documents.Access
import AccessHarness.Rest.Route
import AccessHarness.Session.Basic
import AccessHarness.Text.Base64
import AccessHarness.Text.Quoted
import AccessHarness.Url.Parse

/-!
# Clients

A client is a base URL and the token of one caller; every request of the harness goes
through it, so that answers are classified and tokens are attached in one place.

* `Endpoint` says where the platform and its token service are.
* `RestClient.send` takes any answer, `RestClient.execute` only a success.
* `RestClient.get`, `putJson`, `postJson`, … resolve a path below the base and decode
  the answer.

**Two kinds of refusal.**  A token or a header that cannot be sent, and a path that
cannot be resolved, are configuration faults and cost no request; only what the platform
answers is classified by status.
-/

namespace AccessHarness

/-- A user name with its password. -/
structure Credentials where
  username : String
  password : String
  deriving DecidableEq, Repr

/-- Where the platform is. -/
structure Endpoint where
  instanceUrl : Url
  /-- Where tokens are issued. -/
  authUrl : Url
  /-- How long a request may take. -/
  requestTimeout : Nat
  deriving DecidableEq

namespace Endpoint

/-- Whether requests to the platform are encrypted. -/
def isSecure (e : Endpoint) : Bool := e.instanceUrl.isSecure

/-- The host of the platform. -/
def hostname (e : Endpoint) : String := e.instanceUrl.hostText?.getD "localhost"

end Endpoint

/-- Read a URL, naming what it is for in the fault. -/
def readUrl (what raw : String) : Outcome Url :=
  match Url.parse? raw with
  | .ok u => .ok u
  | .error e =>
    .error (.configuration ("invalid " ++ what ++ ": '" ++ raw ++ "': " ++ e.message))

/-- The endpoint of one URL for everything. -/
def Endpoint.ofInstance (raw : String) : Outcome Endpoint := do
  let u ← readUrl "instance URI" raw
  return ⟨u, u, Duration.ofSeconds 60⟩

/-- A path below a URL. -/
def resolveBelow (base : Url) (path : String) : Outcome Url :=
  match base.joinBelow? path with
  | .ok u => .ok u
  | .error e =>
    .error (.configuration ("invalid path '" ++ path ++ "': " ++ e.message))

/-- A reference resolved against the base of a service. -/
def resolveService (base : Url) (relative : String) : Outcome Url :=
  match base.join? relative with
  | .ok u => .ok u
  | .error e =>
    .error (.configuration ("invalid service path '" ++ relative ++ "': " ++ e.message))

namespace Header

/-- Whether a character may stand in a header value: anything but controls, of which the
tab alone is allowed. -/
def isAllowed (c : Char) : Bool := (0x20 ≤ c.toNat && c.toNat != 0x7f) || c == '\t'

/-- Whether a text can be sent as a header value. -/
def isValue (s : String) : Bool := s.toList.all isAllowed

/-- Header fields whose values can be sent. -/
def fields : List (String × String) → Outcome (List (String × String))
  | [] => .ok []
  | (name, value) :: rest =>
    if isValue value then (fields rest).map ((name, value) :: ·)
    else .error (.configuration
      ("invalid value for header " ++ name ++ ": failed to parse header value"))

end Header

/-- Decode the body of an answer; a blank one stands for `null`. -/
def decodeBody {α : Type} (d : Json.Decoder α) (body : String) : Outcome α :=
  let text := if Text.isBlank body then ['n', 'u', 'l', 'l'] else body.toList
  match Json.decodeDocument d text with
  | some a => .ok a
  | none => .error .decode

/-- **Access bound to one caller.** -/
structure RestClient where
  base : Url
  token : Option String
  deriving DecidableEq

namespace RestClient

/-- The client of a caller with a token, or of nobody. -/
def ofToken (e : Endpoint) (token : Option String) : RestClient := ⟨e.instanceUrl, token⟩

/-- The client as a value in a message; the token itself is not shown. -/
def shown (c : RestClient) : String :=
  Text.shownRecord "RestClient" [("base", Text.quoted c.base.text),
    ("authenticated", Text.shownBool c.token.isSome)]

/-- A path below the base. -/
def url (c : RestClient) (path : String) : Outcome Url := resolveBelow c.base path

/-- The header that carries the token. -/
def authorization (c : RestClient) : Outcome (List (String × String)) :=
  match c.token with
  | none => .ok []
  | some token =>
    if Header.isValue token then .ok [("authorization", "Bearer " ++ token)]
    else .error (.configuration
      "access token is not a valid header: failed to parse header value")

/-- The header that says what a body is. -/
def contentType (b : Body) : List (String × String) :=
  match b.contentType? with
  | none => []
  | some t => [("content-type", t)]

/-- Send a request and take the answer, whatever its status. -/
def send (c : RestClient) (method : String) (url : Url) (headers : List (String × String))
    (body : Body) : Session Response := do
  let authorization ← Session.ofOutcome c.authorization
  Session.send ⟨method, url, headers ++ authorization ++ contentType body, body⟩

/-- An answer that is a success, or the fault it stands for. -/
def requireSuccess (r : Response) : Outcome Response :=
  if Status.isSuccess r.status then .ok r else .error (Fault.ofResponse r.status r.body)

/-- Send a request and require a success. -/
def execute (c : RestClient) (method : String) (url : Url) (headers : List (String × String))
    (body : Body) : Session Response := do
  let r ← c.send method url headers body
  Session.ofOutcome (requireSuccess r)

/-- A request to a path below the base. -/
def call (c : RestClient) (method path : String) (body : Body) : Session Response := do
  let url ← Session.ofOutcome (c.url path)
  c.execute method url [] body

/-- Get a value. -/
def get {α : Type} (c : RestClient) (d : Json.Decoder α) (path : String) : Session α := do
  let r ← c.call "GET" path .empty
  Session.ofOutcome (decodeBody d r.body)

/-- Get a value that may be missing. -/
def getOption {α : Type} (c : RestClient) (d : Json.Decoder α) (path : String) :
    Session (Option α) := do
  match ← Session.attempt (c.get d path) with
  | .ok v => return some v
  | .error f => if f.isNotFound then return none else throw f

/-- Put a document. -/
def putJson (c : RestClient) (path : String) (document : Json) : Session Unit := do
  let _ ← c.call "PUT" path (.json document)
  return ()

/-- Post a document and decode the answer. -/
def postJson {α : Type} (c : RestClient) (d : Json.Decoder α) (path : String)
    (document : Json) : Session α := do
  let r ← c.call "POST" path (.json document)
  Session.ofOutcome (decodeBody d r.body)

/-- Post a body. -/
def post (c : RestClient) (path : String) (body : Body) : Session Unit := do
  let _ ← c.call "POST" path body
  return ()

/-- Post nothing. -/
def postEmpty (c : RestClient) (path : String) : Session Unit := c.post path .empty

/-- Delete what is at a path. -/
def delete (c : RestClient) (path : String) : Session Unit := do
  let _ ← c.call "DELETE" path .empty
  return ()

/-- The answer to a request for a path, whatever its status. -/
def probe (c : RestClient) (path : String) : Session Response := do
  let url ← Session.ofOutcome (c.url path)
  c.send "GET" url [] .empty

end RestClient

/-! ### Tokens -/

/-- The header of a user name and password. -/
def Credentials.header (u : Credentials) : String × String :=
  ("authorization", "Basic " ++ String.ofList
    (Text.Base64.encodeBytes (Text.Percent.utf8 (u.username ++ ":" ++ u.password).toList)))

/-- **Exchange a user name and password for a token.** -/
def fetchToken (e : Endpoint) (u : Credentials) : Session AccessToken := do
  let url ← Session.ofOutcome (resolveBelow e.authUrl "token")
  let r ← Session.send ⟨"GET", url, [u.header], .empty⟩
  let r ← Session.ofOutcome (RestClient.requireSuccess r)
  Session.ofOutcome (decodeBody AccessToken.decoder r.body)

/-- The client of a user. -/
def RestClient.login (e : Endpoint) (u : Credentials) : Session RestClient := do
  let token ← fetchToken e u
  return .ofToken e (some token.token)

end AccessHarness
