import AccessHarness.Proofs.Rest.Places
import AccessHarness.Proofs.Rest.Sending
import AccessHarness.Proofs.Url.Confinement
import AccessHarness.Routes.Application
import AccessHarness.Routes.Data
import AccessHarness.Routes.Namespace
import AccessHarness.Routes.Privilege
import AccessHarness.Routes.Program
import Mathlib.Data.List.Forall2

/-!
# Addresses of resources

An operation on a resource writes the names it is given into a route, and the route is resolved
below the platform or, for tables, against the address of a service.  Encoding and resolving are two
layers; a name comes through both exactly if it is no dot form.

* `ResourceCall` — the operations, each with its `place` (method, route and query) and its `run`.
* `Url.Addresses` — the path of a URL holds every segment of a place, and each decodes to what it
  stands for.
* `ResourceCall.sends_run` — an operation sends requests for its place, and no others.
* `ResourceCall.addresses_iff` — they address the place exactly if all names can stand in a path,
  and then the URL tells the names.
* `ResourceCall.deleteStream_elsewhere` — the others lead elsewhere.

### What is load-bearing

**Segments are counted, not compared** (`Route.forall₂_walk_iff`).  A dot form in front of other
segments makes the path shorter, wherever it is and whatever it takes along
(`Path.length_walk_lt`); at the end it leaves an empty segment, which stands for the empty name
only.  So no path in which a dot form was resolved decodes to the names of the route.

**A route is a list of parts**, words and names.  Two calls are of one operation if their parts
differ in names only; nothing is said about each operation by itself but what its place is.
-/

namespace AccessHarness

namespace Path

theorem length_walk_le (above segments : List (List Char)) :
    (walk above segments).length ≤ above.length + segments.length := by
  have up (above : List (List Char)) : (leave above).length ≤ above.length :=
    (leave_suffix above).length_le
  induction segments generalizing above with
  | nil => simp [walk]
  | cons seg rest ih =>
    cases rest with
    | nil =>
      have := up above
      rw [walk]
      split
      · simp
        omega
      · split <;> simp
    | cons next rest =>
      rw [walk_cons above seg (List.cons_ne_nil next rest), List.length_cons]
      split
      · have := ih (leave above)
        have := up above
        omega
      · split
        · have := ih above
          omega
        · have := ih (encodeSegment seg :: above)
          rw [List.length_cons] at this
          omega

/-- **A dot form in front of other segments makes a path shorter.** -/
theorem length_walk_lt (above : List (List Char)) {front : List (List Char)} (last : List Char)
    (dots : ∃ seg ∈ front, (isUp seg || isHere seg) = true) :
    (walk above (front ++ [last])).length < above.length + (front ++ [last]).length := by
  have up (above : List (List Char)) : (leave above).length ≤ above.length :=
    (leave_suffix above).length_le
  induction front generalizing above with
  | nil =>
    obtain ⟨seg, mem, -⟩ := dots
    exact absurd mem List.not_mem_nil
  | cons seg front ih =>
    have more : front ++ [last] ≠ [] := List.append_ne_nil_of_right_ne_nil _ (by simp)
    rw [List.cons_append, walk_cons above seg more, List.length_cons]
    split
    · have := length_walk_le (leave above) (front ++ [last])
      have := up above
      omega
    · rename_i notUp
      split
      · have := length_walk_le above (front ++ [last])
        omega
      · rename_i notHere
        obtain ⟨other, mem, form⟩ := dots
        rcases List.mem_cons.1 mem with rfl | mem
        · simp [notUp, notHere] at form
        · have := ih (encodeSegment seg :: above) ⟨other, mem, form⟩
          rw [List.length_cons] at this
          omega

end Path

namespace Route

/-- **A segment of a path stands for a name** if it decodes to it. -/
def Stands (piece : List Char) (name : String) : Prop :=
  Text.Percent.decodeBytes piece = Text.Percent.utf8 name.toList

theorem stands_encoded (name : String) : Stands (encoded name) name := decodeBytes_encoded name

/-- A segment stands for one name. -/
theorem Stands.eq {piece : List Char} {name name' : String} (h : Stands piece name)
    (h' : Stands piece name') : name = name' :=
  String.toList_inj.1 (Text.Percent.utf8_inj.1 (h.symm.trans h'))

/-- What is no name is a dot form. -/
theorem isName_iff (s : String) :
    IsName s ↔ (Path.isUp (encoded s) || Path.isHere (encoded s)) = false := by
  constructor
  · intro name
    obtain ⟨up, here⟩ := not_dots_of_isName name
    rw [up, here]
    rfl
  · intro plain
    constructor
    · rintro rfl
      exact absurd plain (by decide)
    · rintro rfl
      exact absurd plain (by decide)

/-- **A path holds every segment if all of them are names, and only then.** -/
theorem forall₂_walk_iff (directory : List (List Char)) (segments : List String) :
    (∃ pieces, Path.walk directory.reverse (segments.map encoded) = directory ++ pieces ∧
        List.Forall₂ Stands pieces segments) ↔ ∀ s ∈ segments, IsName s := by
  constructor
  · rintro ⟨pieces, path, stand⟩
    rcases List.eq_nil_or_concat' segments with rfl | ⟨front, last, rfl⟩
    · exact List.forall_mem_nil _
    rw [List.map_append, List.map_singleton] at path
    rw [List.forall_mem_append, List.forall_mem_singleton]
    constructor
    · intro s mem
      by_contra dots
      rw [isName_iff, Bool.not_eq_false] at dots
      have short := Path.length_walk_lt directory.reverse (encoded last)
        ⟨encoded s, List.mem_map_of_mem mem, dots⟩
      have whole := stand.length_eq
      rw [path] at short
      simp only [List.length_append, List.length_reverse, List.length_map,
        List.length_singleton] at short whole
      omega
    · by_contra dots
      rw [isName_iff, Bool.not_eq_false] at dots
      -- the path ends in an empty segment, which stands for the empty name only
      have ended := Path.getLast?_walk_concat directory.reverse (front.map encoded) (encoded last)
      rw [path, dots] at ended
      have turned := List.rel_reverse stand
      rw [List.reverse_append, List.reverse_singleton, List.singleton_append] at turned
      obtain ⟨piece, rest, stands, -, reversed⟩ := List.forall₂_cons_right_iff.1 turned
      have final : pieces.getLast? = some piece := by
        rw [List.getLast?_eq_head?_reverse, reversed]
        rfl
      rw [List.getLast?_append, final, if_pos rfl] at ended
      have empty : piece = encoded "" := Option.some.inj ended
      rw [empty] at stands
      rw [stands.eq (stands_encoded "")] at dots
      exact absurd dots (by decide)
  · intro names
    refine ⟨segments.map encoded, ?_, ?_⟩
    · rw [walk_encoded directory.reverse names, List.reverse_reverse]
    · rw [List.forall₂_map_left_iff, List.forall₂_same]
      exact fun s _ => stands_encoded s

end Route

/-- **A URL addresses a place** below a base: it is of the base's origin, and in its path the
segments of the place follow the base's own, none dropped and none merged. -/
structure Url.Addresses (u base : Url) (segments : List String) (query : Option (List Char)) :
    Prop where
  origin : u.SameOrigin base
  path : ∃ pieces, u.path = .rooted (base.directory ++ pieces) ∧
    List.Forall₂ Route.Stands pieces segments
  query : u.query = query

namespace Route

/-! ### Places -/

/-- **A part of a route**: a word that belongs to the route, or a name that it is given. -/
inductive Part where
  | word (text : String)
  | name (text : String)
  deriving DecidableEq

namespace Part

/-- The segment that a part becomes. -/
def text : Part → String
  | word s => s
  | name s => s

/-- A part with its name left out. -/
def blank : Part → Part
  | word s => word s
  | name _ => name ""

/-- The name that is given. -/
def given? : Part → Option String
  | word _ => none
  | name s => some s

theorem eq_of_text_of_blank {p p' : Part} (text : p.text = p'.text) (blank : p.blank = p'.blank) :
    p = p' := by
  cases p with
  | word s =>
    cases p' with
    | word s' => exact blank
    | name s' => cases blank
  | name s =>
    cases p' with
    | word s' => cases blank
    | name s' => exact congrArg name text

/-- The parts in front of everything in a namespace. -/
def ofNamespace (ns : NamespaceId) : List Part := [word "namespaces", name ns.name]

/-- The parts of an application. -/
def ofApplication (app : ApplicationId) : List Part :=
  ofNamespace app.ns ++ [word "apps", name app.name]

/-- The parts of a program and what is asked about it; its type is part of its name. -/
def ofProgram (p : ProgramId) (tail : String) : List Part :=
  ofApplication p.application ++ [name p.type.category, name p.name, word tail]

/-- The parts of a dataset and what is asked about it. -/
def ofDataset (d : DatasetId) (tail : List String) : List Part :=
  ofNamespace d.ns ++ [word "data", word "datasets", name d.name] ++ tail.map word

/-- The parts of a stream and what is asked about it. -/
def ofStream (s : StreamId) (tail : List String) : List Part :=
  ofNamespace s.ns ++ [word "streams", name s.name] ++ tail.map word

/-- The parts of an operation on privileges. -/
def ofPrivileges (operation : String) : List Part :=
  [word "security", word "authorization", word "privileges", word operation]

/-- The parts of an operation of a dataset service. -/
def ofTable (ds : DatasetId) (operation : String) : List Part :=
  [word "namespaces", name ds.ns.name, word "datasets", name ds.name, word operation]

end Part

/-- **Where an operation leads**: a method, the parts of a route, and a query. -/
structure Place where
  method : String
  parts : List Part
  query : Option String

namespace Place

/-- The segments of the route. -/
def segments (p : Place) : List String := p.parts.map Part.text

/-- **The names that the route is given.** -/
def names (p : Place) : List String := p.parts.filterMap Part.given?

/-- Places of one operation differ in the names they are given. -/
def SameOperation (p p' : Place) : Prop :=
  p.method = p'.method ∧ p.parts.map Part.blank = p'.parts.map Part.blank

/-- The words of a route are names that a path can hold. -/
def IsWellWorded (p : Place) : Prop :=
  ∀ s, Part.word s ∈ p.parts → IsName s

theorem isName_segments_iff {p : Place} (words : p.IsWellWorded) :
    (∀ s ∈ p.segments, IsName s) ↔ ∀ s ∈ p.names, IsName s := by
  unfold segments names
  constructor
  · intro all s mem
    obtain ⟨part, mem, given⟩ := List.mem_filterMap.1 mem
    cases part with
    | word s' => cases given
    | name s' =>
      cases given
      exact all s (List.mem_map.2 ⟨_, mem, rfl⟩)
  · intro all s mem
    obtain ⟨part, held, rfl⟩ := List.mem_map.1 mem
    cases part with
    | word s' => exact words s' held
    | name s' => exact all s' (List.mem_filterMap.2 ⟨.name s', held, rfl⟩)

/-- Within one operation the segments tell the names. -/
theorem names_eq_of_segments {p p' : Place} (same : p.SameOperation p')
    (segments : p.segments = p'.segments) : p.names = p'.names := by
  obtain ⟨-, blanks⟩ := same
  unfold Place.segments at segments
  have parts : p.parts = p'.parts := by
    generalize p.parts = parts at segments blanks ⊢
    generalize p'.parts = parts' at segments blanks ⊢
    induction parts generalizing parts' with
    | nil => exact (List.map_eq_nil_iff.1 segments.symm).symm
    | cons part rest ih =>
      cases parts' with
      | nil => cases segments
      | cons part' rest' =>
        simp only [List.map_cons, List.cons.injEq] at segments blanks
        rw [Part.eq_of_text_of_blank segments.1 blanks.1, ih rest' segments.2 blanks.2]
  rw [names, names, parts]

end Place

end Route

/-! ### Operations on resources -/

/-- A session whose value is of no interest. -/
def Session.forget {α : Type} (m : Session α) : Session Unit := do
  let _ ← m
  return ()

/-- **An operation on a resource**, with everything it is given. -/
inductive ResourceCall (C : Type) where
  | createNamespace (ns : NamespaceMeta)
  | describeNamespace (ns : NamespaceId)
  | namespaceExists (ns : NamespaceId)
  | deleteNamespace (ns : NamespaceId)
  | deployApp (app : ApplicationId) (encode : C → Json) (request : AppRequest C)
  | listApps (ns : NamespaceId)
  | appExists (app : ApplicationId)
  | deleteApp (app : ApplicationId)
  | startProgram (p : ProgramId) (args : Properties)
  | stopProgram (p : ProgramId)
  | programStatus (p : ProgramId)
  | programRuns (p : ProgramId) (status : Option RunStatus)
  | waitForStatus (p : ProgramId) (status : ProgramStatus) (w : WaitSpec)
  | waitForRun (p : ProgramId) (status : RunStatus) (w : WaitSpec)
  | waitForRuns (p : ProgramId) (status : RunStatus) (count : Nat) (w : WaitSpec)
  | serviceUrl (p : ProgramId) (w : WaitSpec)
  | createDataset (d : DatasetId) (config : DatasetConfiguration)
  | datasetExists (d : DatasetId)
  | listDatasets (ns : NamespaceId)
  | describeDataset (d : DatasetId)
  | updateDataset (d : DatasetId) (properties : Properties)
  | truncateDataset (d : DatasetId)
  | deleteDataset (d : DatasetId)
  | createStream (s : StreamId)
  | deleteStream (s : StreamId)
  | listStreams (ns : NamespaceId)
  | truncateStream (s : StreamId)
  | streamProperties (s : StreamId)
  | setStreamProperties (s : StreamId) (p : StreamProperties)
  | sendEvent (s : StreamId) (event : String)
  | events (s : StreamId) (start stop : Int) (limit : Nat)
  | pluginSummaries (parent : ArtifactId) (type : String) (scope : ArtifactScope)
  | listArtifacts (ns : NamespaceId)
  | addArtifact (a : ArtifactId) (parents : List String) (content : List UInt8)
  | grantPrivileges (request : GrantRequest)
  | revokePrivileges (request : RevokeRequest)
  | listPrivileges (p : Principal)
  | tableGet (service : Url) (d : DatasetId) (request : TableGet)
  | tablePut (service : Url) (d : DatasetId) (request : TablePut)
  | tableIncrement (service : Url) (d : DatasetId) (request : TableIncrement)

namespace ResourceCall

open Route (Part Place)

variable {C : Type}

/-- The query that asks for runs in a state. -/
def runsQuery (status : RunStatus) : String := "status=" ++ status.display

/-- **Where an operation leads**, below the platform or below the service it is given.  The version
of an artifact that is added is no part of its place, and an application is looked for among those
of its namespace. -/
def place : ResourceCall C → Place
  | createNamespace ns => ⟨"PUT", Part.ofNamespace ⟨ns.name⟩, none⟩
  | describeNamespace ns => ⟨"GET", Part.ofNamespace ns, none⟩
  | namespaceExists ns => ⟨"GET", Part.ofNamespace ns, none⟩
  | deleteNamespace ns => ⟨"DELETE", .word "unrecoverable" :: Part.ofNamespace ns, none⟩
  | deployApp app _ _ => ⟨"PUT", Part.ofApplication app, none⟩
  | listApps ns => ⟨"GET", Part.ofNamespace ns ++ [.word "apps"], none⟩
  | appExists app => ⟨"GET", Part.ofNamespace app.ns ++ [.word "apps"], none⟩
  | deleteApp app => ⟨"DELETE", Part.ofApplication app, none⟩
  | startProgram p _ => ⟨"POST", Part.ofProgram p "start", none⟩
  | stopProgram p => ⟨"POST", Part.ofProgram p "stop", none⟩
  | programStatus p => ⟨"GET", Part.ofProgram p "status", none⟩
  | programRuns p status => ⟨"GET", Part.ofProgram p "runs", status.map runsQuery⟩
  | waitForStatus p _ _ => ⟨"GET", Part.ofProgram p "status", none⟩
  | waitForRun p status _ => ⟨"GET", Part.ofProgram p "runs", some (runsQuery status)⟩
  | waitForRuns p status _ _ => ⟨"GET", Part.ofProgram p "runs", some (runsQuery status)⟩
  | serviceUrl p _ => ⟨"GET", Part.ofProgram p "available", none⟩
  | createDataset d _ => ⟨"PUT", Part.ofDataset d [], none⟩
  | datasetExists d => ⟨"GET", Part.ofDataset d [], none⟩
  | listDatasets ns => ⟨"GET", Part.ofNamespace ns ++ [.word "data", .word "datasets"], none⟩
  | describeDataset d => ⟨"GET", Part.ofDataset d [], none⟩
  | updateDataset d _ => ⟨"PUT", Part.ofDataset d ["properties"], none⟩
  | truncateDataset d => ⟨"POST", Part.ofDataset d ["admin", "truncate"], none⟩
  | deleteDataset d => ⟨"DELETE", Part.ofDataset d [], none⟩
  | createStream s => ⟨"PUT", Part.ofStream s [], none⟩
  | deleteStream s => ⟨"DELETE", Part.ofStream s [], none⟩
  | listStreams ns => ⟨"GET", Part.ofNamespace ns ++ [.word "streams"], none⟩
  | truncateStream s => ⟨"POST", Part.ofStream s ["truncate"], none⟩
  | streamProperties s => ⟨"GET", Part.ofStream s ["properties"], none⟩
  | setStreamProperties s _ => ⟨"PUT", Part.ofStream s ["properties"], none⟩
  | sendEvent s _ => ⟨"POST", Part.ofStream s [], none⟩
  | events s start stop limit => ⟨"GET", Part.ofStream s ["events"],
      some ("start=" ++ toString start ++ "&end=" ++ toString stop ++ "&limit=" ++
        Nat.repr limit)⟩
  | pluginSummaries parent type scope => ⟨"GET", Part.ofNamespace parent.ns ++
      [.word "artifacts", .name parent.name, .word "versions", .name parent.version,
        .word "extensions", .name type], some ("scope=" ++ scope.display)⟩
  | listArtifacts ns => ⟨"GET", Part.ofNamespace ns ++ [.word "artifacts"], none⟩
  | addArtifact a _ _ =>
      ⟨"POST", Part.ofNamespace a.ns ++ [.word "artifacts", .name a.name], none⟩
  | grantPrivileges _ => ⟨"POST", Part.ofPrivileges "grant", none⟩
  | revokePrivileges _ => ⟨"POST", Part.ofPrivileges "revoke", none⟩
  | listPrivileges p => ⟨"GET", [.word "security", .word "authorization", .name p.kind.segment,
      .name p.name, .word "privileges"], none⟩
  | tableGet _ d _ => ⟨"POST", Part.ofTable d "get", none⟩
  | tablePut _ d _ => ⟨"POST", Part.ofTable d "put", none⟩
  | tableIncrement _ d _ => ⟨"POST", Part.ofTable d "incrementAndGet", none⟩

/-- The service below which an operation leads, if it is one on a table. -/
def service? : ResourceCall C → Option Url
  | tableGet service _ _ => some service
  | tablePut service _ _ => some service
  | tableIncrement service _ _ => some service
  | _ => none

/-- **The operation itself.** -/
def run (c : RestClient) : ResourceCall C → Session Unit
  | createNamespace ns => c.createNamespace ns
  | describeNamespace ns => (c.describeNamespace ns).forget
  | namespaceExists ns => (c.namespaceExists ns).forget
  | deleteNamespace ns => c.deleteNamespace ns
  | deployApp app encode request => c.deployApp app encode request
  | listApps ns => (c.listApps ns).forget
  | appExists app => (c.appExists app).forget
  | deleteApp app => c.deleteApp app
  | startProgram p args => c.startProgram p args
  | stopProgram p => c.stopProgram p
  | programStatus p => (c.programStatus p).forget
  | programRuns p status => (c.programRuns p status).forget
  | waitForStatus p status w => c.waitForStatus p status w
  | waitForRun p status w => (c.waitForRun p status w).forget
  | waitForRuns p status count w => (c.waitForRuns p status count w).forget
  | serviceUrl p w => (c.serviceUrl p w).forget
  | createDataset d config => c.createDataset d config
  | datasetExists d => (c.datasetExists d).forget
  | listDatasets ns => (c.listDatasets ns).forget
  | describeDataset d => (c.describeDataset d).forget
  | updateDataset d properties => c.updateDataset d properties
  | truncateDataset d => c.truncateDataset d
  | deleteDataset d => c.deleteDataset d
  | createStream s => c.createStream s
  | deleteStream s => c.deleteStream s
  | listStreams ns => (c.listStreams ns).forget
  | truncateStream s => c.truncateStream s
  | streamProperties s => (c.streamProperties s).forget
  | setStreamProperties s p => c.setStreamProperties s p
  | sendEvent s event => c.sendEvent s event
  | events s start stop limit => (c.events s start stop limit).forget
  | pluginSummaries parent type scope => (c.pluginSummaries parent type scope).forget
  | listArtifacts ns => (c.listArtifacts ns).forget
  | addArtifact a parents content => c.addArtifact a parents content
  | grantPrivileges request => c.grantPrivileges request
  | revokePrivileges request => c.revokePrivileges request
  | listPrivileges p => (c.listPrivileges p).forget
  | tableGet service d request => (c.tableGet service d request).forget
  | tablePut service d request => c.tablePut service d request
  | tableIncrement service d request => (c.tableIncrement service d request).forget

/-- The URL below which an operation leads. -/
def base (call : ResourceCall C) (c : RestClient) : Url := call.service?.getD c.base

/-- The segments below that URL. -/
def segments (call : ResourceCall C) : List String :=
  if call.service?.isSome then call.place.segments else "v3" :: call.place.segments

/-- The query of an operation. -/
def query (call : ResourceCall C) : Option (List Char) := call.place.query.map String.toList

/-- **A request of an operation**: of its method, and to the text of its route resolved below the
platform or against the service. -/
def Poses (call : ResourceCall C) (c : RestClient) (r : Request) : Prop :=
  r.method = call.place.method ∧ r.url.isWeb = true ∧
    match call.service? with
    | none => ∃ text : String, text.toList =
        (Route.path call.place.segments).toList ++ Route.queryChars call.query ∧
        c.url text = .ok r.url
    | some service => ∃ (text : String) (first : String) (rest : List String),
        call.place.segments = first :: rest ∧ Route.encoded first ≠ [] ∧
        text.toList = Route.written first rest ++ Route.queryChars call.query ∧
        service.join? text = .ok r.url

variable {c : RestClient} {env : Environment} {r : Request} {body : Body}

/-- A request for a route is one of the operation it is the route of. -/
theorem poses_of_request (call : ResourceCall C) (own : call.service? = none)
    (plain : call.place.query = none) (r : Request)
    (sent : c.request call.place.method (Route.path call.place.segments) body = .ok r) :
    call.Poses c r := by
  obtain ⟨method, -, resolved, web, -⟩ := RestClient.request_eq_ok sent
  unfold Poses
  rw [own]
  refine ⟨method, web, _, ?_, resolved⟩
  rw [query, plain]
  exact (List.append_nil _).symm

/-- The same with a query. -/
theorem poses_of_request_query (call : ResourceCall C) (own : call.service? = none) {query : String}
    (asked : call.place.query = some query) {text : String}
    (path : text = Route.path call.place.segments ++ ("?" ++ query)) (r : Request)
    (sent : c.request call.place.method text body = .ok r) : call.Poses c r := by
  obtain ⟨method, -, resolved, web, -⟩ := RestClient.request_eq_ok sent
  unfold Poses
  rw [own]
  refine ⟨method, web, _, ?_, resolved⟩
  rw [ResourceCall.query, asked, path, String.toList_append, String.toList_append]
  rfl

theorem sends_forget {kind : Request → Prop} {α : Type} {m : Session α}
    (h : Session.Sends kind env m) : Session.Sends kind env m.forget :=
  .bind h fun _ => .pure ()

open RestClient
open Session (leads_ofOutcome)

/-- The path of the runs in one state. -/
theorem runsPath_some (p : ProgramId) (status : RunStatus) :
    runsPath p (some status) = Route.program p "runs" ++ ("?" ++ runsQuery status) := by
  have question : "?status=" = "?" ++ "status=" := by decide
  rw [runsPath, runsQuery, question, String.append_assoc]

/-- An operation of a dataset service asks for its place below the service. -/
theorem sends_callTable {α : Type} (call : ResourceCall C) {service : Url}
    (below : call.service? = some service) (d : Json.Decoder α) (ds : DatasetId)
    (operation : String) (written : Route.encoded operation = operation.toList)
    (place : call.place = ⟨"POST", Part.ofTable ds operation, none⟩) (document : Json) :
    Session.Sends (call.Poses c) env (c.callTable service d ds operation document) := by
  refine Session.sends_ofOutcome_bind ?_
  intro url resolved
  refine .bind (sends_execute c (fun web headers => ?_) []) fun _ => leads_ofOutcome _
  have joined : service.join? ("namespaces/" ++ Text.Percent.encode ds.ns.name ++ "/datasets/" ++
      Text.Percent.encode ds.name ++ "/" ++ operation) = .ok url := by
    unfold resolveService at resolved
    split at resolved
    · cases resolved
      assumption
    · cases resolved
  unfold Poses
  rw [below, query, place]
  refine ⟨rfl, web, _, "namespaces", [ds.ns.name, "datasets", ds.name, operation], rfl, by decide,
    ?_, joined⟩
  have name (s : String) : (Text.Percent.encode s).toList = Route.encoded s := String.toList_ofList
  have front : "namespaces/".toList = Route.encoded "namespaces" ++ ['/'] := by decide
  have middle : "/datasets/".toList = '/' :: Route.encoded "datasets" ++ ['/'] := by decide
  have slash : "/".toList = ['/'] := by decide
  simp only [String.toList_append, name, front, middle, slash, ← written, Route.written,
    Route.queryChars, List.flatMap_cons, List.flatMap_nil, List.append_assoc, List.cons_append,
    List.nil_append, List.append_nil, Option.map_none]

/-- **Whatever an operation sends is a request of it.** -/
theorem sends_run (call : ResourceCall C) (c : RestClient) :
    Session.Sends (call.Poses c) env (call.run c) := by
  cases call with
  | createNamespace ns => exact sends_putJson (poses_of_request (.createNamespace ns) rfl rfl)
  | describeNamespace ns =>
    exact sends_forget (sends_get _ (poses_of_request (.describeNamespace ns) rfl rfl))
  | namespaceExists ns =>
    exact sends_forget (.bind (sends_getOption _
      (poses_of_request (.namespaceExists ns) rfl rfl)) fun _ => .pure _)
  | deleteNamespace ns => exact sends_delete (poses_of_request (.deleteNamespace ns) rfl rfl)
  | deployApp app encode request =>
    exact sends_putJson (poses_of_request (.deployApp app encode request) rfl rfl)
  | listApps ns => exact sends_forget (sends_get _ (poses_of_request (.listApps ns) rfl rfl))
  | appExists app =>
    exact sends_forget (.bind (sends_get _ (poses_of_request (.appExists app) rfl rfl)) fun _ =>
      .pure _)
  | deleteApp app => exact sends_delete (poses_of_request (.deleteApp app) rfl rfl)
  | startProgram p args => exact sends_post (poses_of_request (.startProgram p args) rfl rfl)
  | stopProgram p => exact sends_post (poses_of_request (.stopProgram p) rfl rfl)
  | programStatus p =>
    exact sends_forget (sends_get _ (poses_of_request (.programStatus p) rfl rfl))
  | programRuns p status =>
    refine sends_forget (sends_get _ ?_)
    cases status with
    | none =>
      have path : runsPath p none = Route.program p "runs" := String.append_empty
      rw [path]
      exact poses_of_request (.programRuns p none) rfl rfl
    | some status =>
      exact poses_of_request_query (.programRuns p (some status)) rfl rfl (runsPath_some p status)
  | waitForStatus p status w =>
    exact .bind (Session.leads_waitForValue (Session.sends_sleep env) w _ _
      (sends_get _ (poses_of_request (.waitForStatus p status w) rfl rfl))) fun _ => .pure _
  | waitForRun p status w =>
    exact sends_forget (leads_waitForRun_of_programRuns (Session.sends_sleep env) w (sends_get _
      (poses_of_request_query (.waitForRun p status w) rfl rfl (runsPath_some p status))))
  | waitForRuns p status count w =>
    exact sends_forget (leads_waitForRuns_of_programRuns (Session.sends_sleep env) w count
      (sends_get _ (poses_of_request_query (.waitForRuns p status count w) rfl rfl
        (runsPath_some p status))))
  | serviceUrl p w =>
    exact sends_forget (leads_serviceUrl_of_probe (Session.sends_sleep env) w
      (sends_probe (poses_of_request (.serviceUrl p w) rfl rfl)))
  | createDataset d config =>
    exact sends_putJson (poses_of_request (.createDataset d config) rfl rfl)
  | datasetExists d =>
    exact sends_forget (.bind (sends_getOption _
      (poses_of_request (.datasetExists d) rfl rfl)) fun _ => .pure _)
  | listDatasets ns =>
    exact sends_forget (sends_get _ (poses_of_request (.listDatasets ns) rfl rfl))
  | describeDataset d =>
    exact sends_forget (sends_get _ (poses_of_request (.describeDataset d) rfl rfl))
  | updateDataset d properties =>
    exact sends_putJson (poses_of_request (.updateDataset d properties) rfl rfl)
  | truncateDataset d => exact sends_post (poses_of_request (.truncateDataset d) rfl rfl)
  | deleteDataset d => exact sends_delete (poses_of_request (.deleteDataset d) rfl rfl)
  | createStream s => exact sends_putJson (poses_of_request (.createStream s) rfl rfl)
  | deleteStream s => exact sends_delete (poses_of_request (.deleteStream s) rfl rfl)
  | listStreams ns => exact sends_forget (sends_get _ (poses_of_request (.listStreams ns) rfl rfl))
  | truncateStream s => exact sends_post (poses_of_request (.truncateStream s) rfl rfl)
  | streamProperties s =>
    exact sends_forget (sends_get _ (poses_of_request (.streamProperties s) rfl rfl))
  | setStreamProperties s p =>
    exact sends_putJson (poses_of_request (.setStreamProperties s p) rfl rfl)
  | sendEvent s event => exact sends_post (poses_of_request (.sendEvent s event) rfl rfl)
  | events s start stop limit =>
    have question : "?start=" = "?" ++ "start=" := by decide
    have path : Route.stream s ["events"] ++ "?start=" ++ toString start ++ "&end=" ++
        toString stop ++ "&limit=" ++ Nat.repr limit =
          Route.stream s ["events"] ++ ("?" ++ ("start=" ++ toString start ++ "&end=" ++
            toString stop ++ "&limit=" ++ Nat.repr limit)) := by
      rw [question]
      simp only [String.append_assoc]
    exact sends_forget (.bind (sends_get _
      (poses_of_request_query (.events s start stop limit) rfl rfl path)) fun _ => .pure _)
  | pluginSummaries parent type scope =>
    have question : "?scope=" = "?" ++ "scope=" := by decide
    refine sends_forget (sends_get _
      (poses_of_request_query (.pluginSummaries parent type scope) rfl rfl ?_))
    rw [question, String.append_assoc, String.append_assoc]
    rfl
  | listArtifacts ns =>
    exact sends_forget (sends_get _ (poses_of_request (.listArtifacts ns) rfl rfl))
  | addArtifact a parents content =>
    refine Session.sends_ofOutcome_bind ?_
    intro url resolved
    refine .bind (leads_ofOutcome _) fun fields => ?_
    refine .bind (sends_execute c ?_ fields) fun _ => .pure _
    exact fun web headers => ⟨rfl, web, _, (List.append_nil _).symm, resolved⟩
  | grantPrivileges request =>
    exact sends_forget (sends_postJson _ (poses_of_request (.grantPrivileges request) rfl rfl))
  | revokePrivileges request =>
    exact sends_forget (sends_postJson _ (poses_of_request (.revokePrivileges request) rfl rfl))
  | listPrivileges p =>
    exact sends_forget (sends_get _ (poses_of_request (.listPrivileges p) rfl rfl))
  | tableGet service d request =>
    exact sends_forget
      (sends_callTable (.tableGet service d request) rfl _ d "get" (by decide) rfl _)
  | tablePut service d request =>
    exact .bind (sends_callTable (.tablePut service d request) rfl _ d "put" (by decide) rfl _)
      fun _ => .pure _
  | tableIncrement service d request =>
    exact sends_forget (sends_callTable (.tableIncrement service d request) rfl _ d
      "incrementAndGet" (by decide) rfl _)

/-! ### Where the requests lead -/

/-- A number is written with digits, and perhaps a sign. -/
theorem isQueryPlain_of_mem_repr {n : Nat} {ch : Char} (h : ch ∈ (Nat.repr n).toList) :
    Url.isQueryPlain true ch = true := by
  rw [Nat.toList_repr] at h
  have digit := Nat.isDigit_of_mem_toDigits (by decide) (by decide) h
  refine Route.isQueryPlain_of_isSegmentChar ?_
  simp [Route.isSegmentChar, Text.Percent.isUnreserved, Char.isAlphanum, digit]

theorem isQueryPlain_of_mem_toString {n : Int} {ch : Char} (h : ch ∈ (toString n).toList) :
    Url.isQueryPlain true ch = true := by
  cases n with
  | ofNat n => exact isQueryPlain_of_mem_repr h
  | negSucc n =>
    have signed : ch ∈ ("-" ++ (n + 1).repr).toList := h
    rw [String.toList_append, List.mem_append] at signed
    rcases signed with sign | digits
    · have minus : ch = '-' := by simpa using sign
      rw [minus]
      decide
    · exact isQueryPlain_of_mem_repr digits

/-- **The query of an operation is sent as it is.** -/
theorem isQuery_query (call : ResourceCall C) : Route.IsQuery call.query := by
  have none (h : call.query = none) : Route.IsQuery call.query := by
    rw [h]
    exact Route.isQuery_none
  have some {text : String} (h : call.query = some text.toList)
      (plain : ∀ ch ∈ text.toList, Url.isQueryPlain true ch = true) : Route.IsQuery call.query := by
    rintro q mem ch held
    rw [h] at mem
    cases mem
    exact plain ch held
  have runs (status : RunStatus) : ∀ ch ∈ (runsQuery status).toList,
      Url.isQueryPlain true ch = true := by
    apply List.all_eq_true.1
    cases status <;> decide
  cases call with
  | programRuns p status =>
    cases status with
    | none => exact none rfl
    | some status => exact some rfl (runs status)
  | waitForRun p status w => exact some rfl (runs status)
  | waitForRuns p status count w => exact some rfl (runs status)
  | events s start stop limit =>
    refine some rfl ?_
    have words : ∀ word ∈ ["start=", "&end=", "&limit="],
        word.toList.all (Url.isQueryPlain true) = true := by
      decide
    have word {word : String} (mem : word ∈ ["start=", "&end=", "&limit="]) :
        ∀ ch ∈ word.toList, Url.isQueryPlain true ch = true :=
      List.all_eq_true.1 (words word mem)
    simp only [String.toList_append, List.forall_mem_append]
    exact ⟨⟨⟨⟨⟨word (by simp), fun _ => isQueryPlain_of_mem_toString⟩, word (by simp)⟩,
      fun _ => isQueryPlain_of_mem_toString⟩, word (by simp)⟩, fun _ => isQueryPlain_of_mem_repr⟩
  | pluginSummaries parent type scope =>
    refine some rfl (List.all_eq_true.1 ?_)
    cases scope <;> decide
  | _ => exact none rfl

/-- The words of every route can stand in a path. -/
theorem isWellWorded_place (call : ResourceCall C) : call.place.IsWellWorded := by
  unfold Place.IsWellWorded
  cases call <;>
    simp [place, Part.ofNamespace, Part.ofApplication, Part.ofProgram, Part.ofDataset,
      Part.ofStream, Part.ofPrivileges, Part.ofTable] <;>
    decide

/-- **Where an operation can be aimed at**: one on a table, below a service whose address ends in a
slash. -/
def Grounded (call : ResourceCall C) : Prop :=
  ∀ service ∈ call.service?, ∃ l, service.path = .rooted (l ++ [[]])

/-- Operations below the platform are grounded. -/
theorem grounded_of_service?_eq_none {call : ResourceCall C} (own : call.service? = none) :
    call.Grounded := by
  intro service below
  rw [own] at below
  cases below

/-- **The URL of every request of an operation.** -/
theorem url_of_poses {call : ResourceCall C} (grounded : call.Grounded) (posed : call.Poses c r) :
    r.url = { call.base c with
      path := .rooted (Path.walk (call.base c).directory.reverse
        (call.segments.map Route.encoded))
      query := call.query
      fragment := none } := by
  obtain ⟨-, web, posed⟩ := posed
  have plain := call.isQuery_query
  unfold Grounded base segments at *
  cases below : call.service? with
  | none =>
    rw [below] at posed
    obtain ⟨text, path, resolved⟩ := posed
    rw [url_eq_ok_iff] at resolved
    obtain ⟨baseWeb, l, rooted⟩ := Url.isWeb_of_joinBelow? plain path resolved web
    rw [Option.getD_none]
    rw [Url.joinBelow?_written baseWeb rooted _ plain path, Except.ok.injEq] at resolved
    exact resolved.symm
  | some service =>
    rw [below] at posed grounded
    obtain ⟨text, first, rest, split, named, path, joined⟩ := posed
    obtain ⟨l, rooted⟩ := grounded service rfl
    rw [Option.getD_some]
    have inside : service.directory = l := by
      simp [Url.directory, rooted]
    rw [Url.join?, path] at joined
    obtain ⟨baseWeb, -⟩ := Url.isWeb_of_resolve?_written named plain joined web
    rw [Url.resolve?_written_of_isWeb baseWeb rooted rest named plain, Except.ok.injEq,
      List.dropLast_concat, ← inside, ← split] at joined
    exact joined.symm

/-- **Where every request of an operation goes**, whatever it is aimed at. -/
theorem goesAlong_of_poses {call : ResourceCall C} (posed : call.Poses c r) :
    r.url.GoesAlong call.segments := by
  obtain ⟨-, web, posed⟩ := posed
  have plain := call.isQuery_query
  unfold segments
  cases below : call.service? with
  | none =>
    rw [below] at posed
    obtain ⟨text, path, resolved⟩ := posed
    exact Url.goesAlong_of_joinBelow? plain path (url_eq_ok_iff.1 resolved) web
  | some service =>
    rw [below] at posed
    obtain ⟨text, first, rest, split, named, path, joined⟩ := posed
    rw [Url.join?, path] at joined
    rw [Option.isSome_some, if_pos rfl, split]
    exact Url.goesAlong_of_resolve? named plain joined web

/-- A request that is sent in some run of an operation. -/
def IsSent (call : ResourceCall C) (c : RestClient) (r : Request) : Prop :=
  ∃ env t reply, .exchanged r reply ∈ (call.run c env t).2.since t

/-- **Calls of one operation** differ in what they are given. -/
def SameOperation (call call' : ResourceCall C) : Prop :=
  call.service?.isSome = call'.service?.isSome ∧ call.place.SameOperation call'.place

example (s s' : StreamId) : SameOperation (C := Unit) (.deleteStream s) (.deleteStream s') :=
  ⟨rfl, rfl, rfl⟩

theorem poses_of_isSent {call : ResourceCall C} (sent : call.IsSent c r) : call.Poses c r := by
  obtain ⟨env, t, reply, mem⟩ := sent
  exact (sends_run call c).of_mem mem

/-- **A request addresses its place if all names can stand in a path, and only then.** -/
theorem addresses_iff_of_isSent {call : ResourceCall C} (grounded : call.Grounded)
    (sent : call.IsSent c r) :
    r.url.Addresses (call.base c) call.segments call.query ↔
      ∀ s ∈ call.place.names, Route.IsName s := by
  have url := url_of_poses grounded (poses_of_isSent sent)
  have names : (∀ s ∈ call.segments, Route.IsName s) ↔ ∀ s ∈ call.place.names, Route.IsName s := by
    have version : Route.IsName "v3" := by decide
    rw [← Place.isName_segments_iff call.isWellWorded_place, segments]
    split
    · rfl
    · rw [List.forall_mem_cons]
      exact and_iff_right version
  rw [← names, ← Route.forall₂_walk_iff (call.base c).directory]
  constructor
  · rintro ⟨-, ⟨pieces, path, stand⟩, -⟩
    rw [url] at path
    exact ⟨pieces, UrlPath.rooted.inj path, stand⟩
  · rintro ⟨pieces, path, stand⟩
    rw [url]
    exact ⟨⟨rfl, rfl, rfl⟩, ⟨pieces, congrArg _ path, stand⟩, rfl⟩

/-- **A URL is that of one list of names.** -/
theorem names_eq_of_addresses {call call' : ResourceCall C} {u base : Url}
    {query query' : Option (List Char)} (same : call.SameOperation call')
    (addressed : u.Addresses base call.segments query)
    (addressed' : u.Addresses base call'.segments query') :
    call.place.names = call'.place.names := by
  obtain ⟨-, ⟨pieces, path, stand⟩, -⟩ := addressed
  obtain ⟨-, ⟨pieces', path', stand'⟩, -⟩ := addressed'
  rw [path, UrlPath.rooted.injEq, List.append_cancel_left_eq] at path'
  subst path'
  have unique : Relator.RightUnique Route.Stands := fun _ _ _ h h' => h.eq h'
  have segments : call.segments = call'.segments :=
    unique.forall₂ stand stand'
  refine Place.names_eq_of_segments same.2 ?_
  unfold ResourceCall.segments at segments
  rw [← same.1] at segments
  split at segments
  · exact segments
  · exact (List.cons.inj segments).2

/-- **Which operations address exactly the resource they name.**  All of them, as long as no name is
a dot form; and then the URL tells the names. -/
theorem addresses_iff (call : ResourceCall C) (grounded : call.Grounded)
    (sent : call.IsSent c r) :
    r.method = call.place.method ∧
      (r.url.Addresses (call.base c) call.segments call.query ↔
        ∀ s ∈ call.place.names, Route.IsName s) ∧
      ∀ (call' : ResourceCall C) (c' : RestClient) (r' : Request), call'.Grounded →
        call'.IsSent c' r' → call'.base c' = call.base c → call.SameOperation call' →
        (∀ s ∈ call.place.names ++ call'.place.names, Route.IsName s) →
        r'.url = r.url → call.place.names = call'.place.names := by
  have addressed := addresses_iff_of_isSent grounded sent
  refine ⟨(poses_of_isSent sent).1, addressed, ?_⟩
  intro call' c' r' grounded' sent' sameBase sameOperation names sameUrl
  rw [List.forall_mem_append] at names
  have addressed' := addresses_iff_of_isSent grounded' sent'
  rw [sameBase, sameUrl] at addressed'
  exact names_eq_of_addresses sameOperation (addressed.2 names.1) (addressed'.2 names.2)

/-- A stream whose name is full of marks. -/
theorem addresses_iff_marked :
    let call : ResourceCall Unit := .deleteStream ⟨⟨"ns1"⟩, "a/b ../%2e?"⟩
    let r : Request := ⟨"DELETE", { RestClient.local.base with
      path := .rooted ["v3".toList, "namespaces".toList, "ns1".toList, "streams".toList,
        "a%2Fb%20..%2F%252e%3F".toList] }, [], .empty⟩
    (call.Grounded ∧ call.IsSent .local r) ∧
      r.url.Addresses RestClient.local.base ["v3", "namespaces", "ns1", "streams", "a/b ../%2e?"]
        none := by
  intro call r
  have grounded : call.Grounded := grounded_of_service?_eq_none rfl
  let env : Environment := .replying fun _ _ => .answered ⟨200, ""⟩
  have sent : call.IsSent .local r := ⟨env, [], .answered ⟨200, ""⟩, by decide +kernel⟩
  have names : ∀ s ∈ call.place.names, Route.IsName s := by
    decide
  exact ⟨⟨grounded, sent⟩, (addresses_iff call grounded sent).2.1.2 names⟩

/-- **A name can lead to another resource.**  To delete the stream `..` is to ask for the deletion
of something at the place of its namespace, and to delete the streams with the empty name and with
the name `.` are the same request. -/
theorem deleteStream_elsewhere :
    let requested (name : String) : Option Request :=
      ((deleteStream (C := Unit) ⟨⟨"ns1"⟩, name⟩).run .local
        (.replying fun _ _ => .answered ⟨200, ""⟩) []).2.exchanges.head?.map (·.1)
    let below (segments : List String) : Request :=
      ⟨"DELETE", { RestClient.local.base with path := .rooted (segments.map String.toList) }, [],
        .empty⟩
    (requested ".." = some (below ["v3", "namespaces", "ns1", ""]) ∧
      ¬ (below ["v3", "namespaces", "ns1", ""]).url.Addresses RestClient.local.base
        ["v3", "namespaces", "ns1", "streams", ".."] none) ∧
      requested "" = some (below ["v3", "namespaces", "ns1", "streams", ""]) ∧
      requested "." = requested "" := by
  intro requested below
  refine ⟨⟨by decide +kernel, ?_⟩, by decide +kernel, by decide +kernel⟩
  rintro ⟨-, ⟨pieces, path, stand⟩, -⟩
  have whole := stand.length_eq
  have short : pieces.length = 4 := by
    have segments := UrlPath.rooted.inj path
    exact (congrArg List.length segments).symm
  rw [short] at whole
  cases whole

end ResourceCall

end AccessHarness
