import AccessHarness.Identity.Privilege
import AccessHarness.Json.Document

/-!
# Identities as documents

How principals, entities, actions and privileges are written as documents and read back.

An entity is a *tagged* record: the field `entity` names its kind, and the kind decides
which other fields are read.  Because the kind may come last, the whole record is taken
in before any field is looked at; a field nobody asks for must therefore still be a
value that could be kept, and beside the name of a kind of program an empty object may
stand for `null`.
-/

namespace AccessHarness

open Json

namespace PrincipalKind

/-- The document of a kind. -/
def toJson (k : PrincipalKind) : Json := .str k.wireName

/-- Read a kind. -/
def decoder : Decoder PrincipalKind := Decoder.choice wireNames

instance : Document PrincipalKind := ⟨toJson, decoder⟩

end PrincipalKind

namespace Principal

/-- The document of a principal. -/
def toJson (p : Principal) : Json := .obj [("name", .str p.name), ("type", p.kind.toJson)]

/-- Read a principal. -/
def decoder : Decoder Principal := fun room j => do
  let r ← Row.read ["name", "type"] room j
  let name ← r.required "name" Decoder.string
  let kind ← r.required "type" PrincipalKind.decoder
  return ⟨name, kind⟩

instance : Document Principal := ⟨toJson, decoder⟩

end Principal

namespace Action

/-- The document of an action. -/
def toJson (a : Action) : Json := .str a.display

/-- Read an action. -/
def decoder : Decoder Action := Decoder.choice wireNames

instance : Document Action := ⟨toJson, decoder⟩

end Action

namespace ActionSet

/-- The document of a set of actions. -/
def toJson (s : ActionSet) : Json := Json.ofList Action.toJson s.toList

/-- Read a set of actions. -/
def decoder : Decoder ActionSet :=
  Decoder.mapped ActionSet.ofList (Decoder.list Action.decoder)

instance : Document ActionSet := ⟨toJson, decoder⟩

end ActionSet

namespace ProgramType

/-- The document of a kind of program. -/
def toJson (t : ProgramType) : Json := .str t.wireName

/-- Read a kind of program. -/
def decoder : Decoder ProgramType := Decoder.choice wireNames

instance : Document ProgramType := ⟨toJson, decoder⟩

end ProgramType

namespace EntityId

/-- The document of an entity. -/
def toJson : EntityId → Json
  | .platform name => .obj [("entity", .str "INSTANCE"), ("instance", .str name)]
  | .space ns => .obj [("entity", .str "NAMESPACE"), ("namespace", .str ns)]
  | .artifact ns name version =>
    .obj [("entity", .str "ARTIFACT"), ("namespace", .str ns), ("artifact", .str name),
      ("version", .str version)]
  | .application ns name =>
    .obj [("entity", .str "APPLICATION"), ("namespace", .str ns), ("application", .str name)]
  | .program ns app type name =>
    .obj [("entity", .str "PROGRAM"), ("namespace", .str ns), ("application", .str app),
      ("type", type.toJson), ("program", .str name)]
  | .dataset ns name =>
    .obj [("entity", .str "DATASET"), ("namespace", .str ns), ("dataset", .str name)]
  | .datasetModule ns name =>
    .obj [("entity", .str "DATASET_MODULE"), ("namespace", .str ns), ("module", .str name)]
  | .datasetType ns name =>
    .obj [("entity", .str "DATASET_TYPE"), ("namespace", .str ns), ("type", .str name)]
  | .stream ns name =>
    .obj [("entity", .str "STREAM"), ("namespace", .str ns), ("stream", .str name)]
  | .kerberosPrincipal principal =>
    .obj [("entity", .str "KERBEROS_PRINCIPAL"), ("principal", .str principal)]

/-- The fields of each kind, in declared order. -/
def fieldNames : String → Option (List String)
  | "INSTANCE" => some ["instance"]
  | "NAMESPACE" => some ["namespace"]
  | "ARTIFACT" => some ["namespace", "artifact", "version"]
  | "APPLICATION" => some ["namespace", "application"]
  | "PROGRAM" => some ["namespace", "application", "type", "program"]
  | "DATASET" => some ["namespace", "dataset"]
  | "DATASET_MODULE" => some ["namespace", "module"]
  | "DATASET_TYPE" => some ["namespace", "type"]
  | "STREAM" => some ["namespace", "stream"]
  | "KERBEROS_PRINCIPAL" => some ["principal"]
  | _ => none

/-- The entity of a kind from its fields. -/
def ofRow (kind : String) (r : Row) : Option EntityId :=
  let field (name : String) : Option String := r.required name Decoder.string
  match kind with
  | "INSTANCE" => (field "instance").map .platform
  | "NAMESPACE" => (field "namespace").map .space
  | "ARTIFACT" => do return .artifact (← field "namespace") (← field "artifact") (← field "version")
  | "APPLICATION" => do return .application (← field "namespace") (← field "application")
  | "PROGRAM" => do
    return .program (← field "namespace") (← field "application")
      (← r.required "type" (Decoder.keptChoice ProgramType.wireNames)) (← field "program")
  | "DATASET" => do return .dataset (← field "namespace") (← field "dataset")
  | "DATASET_MODULE" => do return .datasetModule (← field "namespace") (← field "module")
  | "DATASET_TYPE" => do return .datasetType (← field "namespace") (← field "type")
  | "STREAM" => do return .stream (← field "namespace") (← field "stream")
  | "KERBEROS_PRINCIPAL" => (field "principal").map .kerberosPrincipal
  | _ => none

/-- Read an entity: the kind from the tag, the fields from the rest. -/
def decoder : Decoder EntityId
  | room + 1, .obj fields =>
    match fields.filter fun f => f.1 == "entity" with
    | [(_, .str kind)] => do
      let rest := fields.filter fun f => f.1 != "entity"
      let _ ← canonicalFields room rest
      let names ← fieldNames kind
      ofRow kind (← Row.read names (room + 1) (.obj rest))
    | _ => none
  | room + 1, .arr (.str kind :: rest) => do
    let _ ← canonicalItems room rest
    let names ← fieldNames kind
    ofRow kind (← Row.read names (room + 1) (.arr rest))
  | _, _ => none

instance : Document EntityId := ⟨toJson, decoder⟩

end EntityId

namespace Privilege

/-- The document of a privilege. -/
def toJson (p : Privilege) : Json :=
  .obj [("entity", p.entity.toJson), ("action", p.action.toJson)]

/-- Read a privilege. -/
def decoder : Decoder Privilege := fun room j => do
  let r ← Row.read ["entity", "action"] room j
  let entity ← r.required "entity" EntityId.decoder
  let action ← r.required "action" Action.decoder
  return ⟨entity, action⟩

/-- Read a set of privileges. -/
def setDecoder : Decoder (OrderedSet Privilege) := Decoder.set decoder

instance : Document Privilege := ⟨toJson, decoder⟩

end Privilege

namespace EntityId

/-- An entity as a value in a message. -/
def shown : EntityId → String
  | .platform name => Text.shownRecord "Instance" [("instance", Text.quoted name)]
  | .space ns => Text.shownRecord "Namespace" [("namespace", Text.quoted ns)]
  | .artifact ns name version =>
    Text.shownRecord "Artifact" [("namespace", Text.quoted ns), ("artifact", Text.quoted name),
      ("version", Text.quoted version)]
  | .application ns name =>
    Text.shownRecord "Application"
      [("namespace", Text.quoted ns), ("application", Text.quoted name)]
  | .program ns app type name =>
    Text.shownRecord "Program"
      [("namespace", Text.quoted ns), ("application", Text.quoted app),
       ("program_type", String.ofList (type.short.toList.mapIdx fun i c =>
          if i = 0 then c.toUpper else c)),
       ("program", Text.quoted name)]
  | .dataset ns name =>
    Text.shownRecord "Dataset" [("namespace", Text.quoted ns), ("dataset", Text.quoted name)]
  | .datasetModule ns name =>
    Text.shownRecord "DatasetModule" [("namespace", Text.quoted ns), ("module", Text.quoted name)]
  | .datasetType ns name =>
    Text.shownRecord "DatasetType" [("namespace", Text.quoted ns), ("type_name", Text.quoted name)]
  | .stream ns name =>
    Text.shownRecord "Stream" [("namespace", Text.quoted ns), ("stream", Text.quoted name)]
  | .kerberosPrincipal principal =>
    Text.shownRecord "KerberosPrincipal" [("principal", Text.quoted principal)]

end EntityId

namespace Privilege

/-- A privilege as a value in a message. -/
def shown (p : Privilege) : String :=
  Text.shownRecord "Privilege" [("entity", p.entity.shown), ("action", p.action.shown)]

/-- A set of privileges as a value in a message. -/
def setShown (s : OrderedSet Privilege) : String := Text.shownSet shown s.members

end Privilege

end AccessHarness
