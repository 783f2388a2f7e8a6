import AccessHarness.OrderedMap

/-!
# Entities

The resources that privileges are about, and the tree they form.

`EntityId` is a resource as the privilege routes name it.  The identifiers with fields of
their own (`NamespaceId`, `DatasetId`, `ApplicationId`, …) are what the other routes take;
`toEntity` leads from each of them to its entity.

### The tree

`EntityId.parent` is one step up: a program lies in its application, an application or
any other content in its namespace, a namespace in the instance; the instance and the
Kerberos principals lie in nothing.  `EntityId.namespaceId` and `EntityId.isContainedIn`
answer about that tree without walking it, and `EntityId.ancestors` walks it.
-/

namespace AccessHarness

/-- The kinds of program. -/
inductive ProgramType where
  | flow | mapreduce | spark | workflow | service | worker
  deriving DecidableEq, Repr

namespace ProgramType

/-- The collection of a kind in a route. -/
def category : ProgramType → String
  | .flow => "flows"
  | .mapreduce => "mapreduce"
  | .spark => "spark"
  | .workflow => "workflows"
  | .service => "services"
  | .worker => "workers"

/-- The kind in a written identifier. -/
def short : ProgramType → String
  | .flow => "flow"
  | .mapreduce => "mapreduce"
  | .spark => "spark"
  | .workflow => "workflow"
  | .service => "service"
  | .worker => "worker"

/-- The name of the kind in a document. -/
def wireName : ProgramType → String
  | .flow => "FLOW"
  | .mapreduce => "MAPREDUCE"
  | .spark => "SPARK"
  | .workflow => "WORKFLOW"
  | .service => "SERVICE"
  | .worker => "WORKER"

/-- Every kind with its name in a document. -/
def wireNames : List (String × ProgramType) :=
  [.flow, .mapreduce, .spark, .workflow, .service, .worker].map fun t => (t.wireName, t)

/-- The place of a kind in the order. -/
def place : ProgramType → String
  | .flow => "0"
  | .mapreduce => "1"
  | .spark => "2"
  | .workflow => "3"
  | .service => "4"
  | .worker => "5"

theorem place_injective {a b : ProgramType} (h : a.place = b.place) : a = b := by
  cases a <;> cases b <;> first | rfl | exact absurd h (by decide)

end ProgramType

/-- A namespace by its name. -/
structure NamespaceId where
  name : String
  deriving DecidableEq, Repr

/-- A resource of the platform. -/
inductive EntityId where
  /-- The platform's instance. -/
  | platform (name : String)
  /-- A namespace. -/
  | space (ns : String)
  | artifact (ns name version : String)
  | application (ns name : String)
  | program (ns app : String) (type : ProgramType) (name : String)
  | dataset (ns name : String)
  | datasetModule (ns name : String)
  | datasetType (ns name : String)
  | stream (ns name : String)
  | kerberosPrincipal (principal : String)
  deriving DecidableEq, Repr

namespace EntityId

/-- The name of the namespace an entity is or belongs to. -/
def namespaceName : EntityId → Option String
  | .platform _ | .kerberosPrincipal _ => none
  | .space ns | .artifact ns _ _ | .application ns _ | .program ns _ _ _
  | .dataset ns _ | .datasetModule ns _ | .datasetType ns _ | .stream ns _ => some ns

/-- The namespace an entity is or belongs to. -/
def namespaceId (e : EntityId) : Option NamespaceId := e.namespaceName.map NamespaceId.mk

/-- The instance every namespace lies in. -/
def root : EntityId := .platform "cdap"

/-- One step up the tree. -/
def parent : EntityId → Option EntityId
  | .platform _ | .kerberosPrincipal _ => none
  | .space _ => some root
  | .program ns app _ _ => some (.application ns app)
  | .artifact ns _ _ | .application ns _ | .dataset ns _ | .datasetModule ns _
  | .datasetType ns _ | .stream ns _ => some (.space ns)

/-- Whether an entity is a namespace. -/
def isNamespace : EntityId → Bool
  | .space _ => true
  | _ => false

/-- Whether an entity lies strictly inside a namespace. -/
def isContainedIn (e : EntityId) (ns : NamespaceId) : Bool :=
  !e.isNamespace && e.namespaceId == some ns

/-- How far down the tree an entity stands. -/
def depth : EntityId → Nat
  | .platform _ | .kerberosPrincipal _ => 0
  | .space _ => 1
  | .program .. => 3
  | _ => 2

/-- At most `n` steps up from an entity. -/
def climb : Nat → EntityId → List EntityId
  | 0, _ => []
  | n + 1, e =>
    match e.parent with
    | none => []
    | some p => p :: climb n p

/-- **The strict ancestors**, nearest first. -/
def ancestors (e : EntityId) : List EntityId := climb e.depth e

/-- The written entity: its kind, then its names with dots between. -/
def display : EntityId → String
  | .platform name => "instance:" ++ name
  | .space ns => "namespace:" ++ ns
  | .artifact ns name version => "artifact:" ++ ns ++ "." ++ name ++ "." ++ version
  | .application ns name => "application:" ++ ns ++ "." ++ name
  | .program ns app type name =>
    "program:" ++ ns ++ "." ++ app ++ "." ++ type.short ++ "." ++ name
  | .dataset ns name => "dataset:" ++ ns ++ "." ++ name
  | .datasetModule ns name => "dataset_module:" ++ ns ++ "." ++ name
  | .datasetType ns name => "dataset_type:" ++ ns ++ "." ++ name
  | .stream ns name => "stream:" ++ ns ++ "." ++ name
  | .kerberosPrincipal principal => "kerberosprincipal:" ++ principal

end EntityId

/-- Entities are ordered by kind, in the order of the constructors, then by their names
from the outermost. -/
instance : Ranked EntityId where
  rank
    | .platform name => ["0", name]
    | .space ns => ["1", ns]
    | .artifact ns name version => ["2", ns, name, version]
    | .application ns name => ["3", ns, name]
    | .program ns app type name => ["4", ns, app, type.place, name]
    | .dataset ns name => ["5", ns, name]
    | .datasetModule ns name => ["6", ns, name]
    | .datasetType ns name => ["7", ns, name]
    | .stream ns name => ["8", ns, name]
    | .kerberosPrincipal principal => ["9", principal]
  rank_injective {a b} h := by
    cases a <;> cases b <;>
      simp only [List.cons.injEq, and_true, String.reduceEq, false_and, true_and] at h <;>
      first
        | exact h.elim
        | (obtain ⟨h1, h2, h3, h4⟩ := h
           rw [h1, h2, ProgramType.place_injective h3, h4])
        | (obtain ⟨h1, h2, h3⟩ := h; rw [h1, h2, h3])
        | (obtain ⟨h1, h2⟩ := h; rw [h1, h2])
        | rw [h]

/-! ### Identifiers of the routes -/

/-- A dataset in a namespace. -/
structure DatasetId where
  ns : NamespaceId
  name : String
  deriving DecidableEq, Repr

/-- A stream in a namespace. -/
structure StreamId where
  ns : NamespaceId
  name : String
  deriving DecidableEq, Repr

/-- An artifact in a namespace, with its version. -/
structure ArtifactId where
  ns : NamespaceId
  name : String
  version : String
  deriving DecidableEq, Repr

/-- An application in a namespace. -/
structure ApplicationId where
  ns : NamespaceId
  name : String
  deriving DecidableEq, Repr

/-- A program of an application. -/
structure ProgramId where
  application : ApplicationId
  type : ProgramType
  name : String
  deriving DecidableEq, Repr

namespace NamespaceId

/-- The namespace as an entity. -/
def toEntity (ns : NamespaceId) : EntityId := .space ns.name

/-- A dataset of the namespace. -/
def dataset (ns : NamespaceId) (name : String) : DatasetId := ⟨ns, name⟩

/-- A stream of the namespace. -/
def stream (ns : NamespaceId) (name : String) : StreamId := ⟨ns, name⟩

/-- An application of the namespace. -/
def app (ns : NamespaceId) (name : String) : ApplicationId := ⟨ns, name⟩

/-- An artifact of the namespace. -/
def artifact (ns : NamespaceId) (name version : String) : ArtifactId := ⟨ns, name, version⟩

/-- A dataset module of the namespace. -/
def datasetModule (ns : NamespaceId) (name : String) : EntityId := .datasetModule ns.name name

/-- A dataset type of the namespace. -/
def datasetType (ns : NamespaceId) (name : String) : EntityId := .datasetType ns.name name

end NamespaceId

/-- The dataset as an entity. -/
def DatasetId.toEntity (d : DatasetId) : EntityId := .dataset d.ns.name d.name

/-- The stream as an entity. -/
def StreamId.toEntity (s : StreamId) : EntityId := .stream s.ns.name s.name

/-- The artifact as an entity. -/
def ArtifactId.toEntity (a : ArtifactId) : EntityId := .artifact a.ns.name a.name a.version

namespace ApplicationId

/-- The application as an entity. -/
def toEntity (a : ApplicationId) : EntityId := .application a.ns.name a.name

/-- A program of the application. -/
def program (a : ApplicationId) (type : ProgramType) (name : String) : ProgramId :=
  ⟨a, type, name⟩

/-- A service of the application. -/
def service (a : ApplicationId) (name : String) : ProgramId := a.program .service name

/-- A flow of the application. -/
def flow (a : ApplicationId) (name : String) : ProgramId := a.program .flow name

/-- A workflow of the application. -/
def workflow (a : ApplicationId) (name : String) : ProgramId := a.program .workflow name

/-- A map-reduce program of the application. -/
def mapreduce (a : ApplicationId) (name : String) : ProgramId := a.program .mapreduce name

/-- A Spark program of the application. -/
def spark (a : ApplicationId) (name : String) : ProgramId := a.program .spark name

/-- A worker of the application. -/
def worker (a : ApplicationId) (name : String) : ProgramId := a.program .worker name

end ApplicationId

namespace ProgramId

/-- The program as an entity. -/
def toEntity (p : ProgramId) : EntityId :=
  .program p.application.ns.name p.application.name p.type p.name

/-- The namespace of the program. -/
def ns (p : ProgramId) : NamespaceId := p.application.ns

/-- The written program: its names with dots between. -/
def display (p : ProgramId) : String :=
  p.application.ns.name ++ "." ++ p.application.name ++ "." ++ p.type.short ++ "." ++ p.name

end ProgramId

end AccessHarness
