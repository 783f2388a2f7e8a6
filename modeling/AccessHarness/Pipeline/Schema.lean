import AccessHarness.Json.Document
import AccessHarness.Json.Printer

/-!
# Record schemas

The schema of the rows a pipeline moves: a name and typed fields.  Plugins take a schema
as the compact text of its document (`Schema.text`).
-/

namespace AccessHarness

open Json

/-- The type of a field. -/
inductive FieldType where
  | boolean | int | long | float | double | string | bytes
  deriving DecidableEq, Repr

namespace FieldType

/-- The name of a type. -/
def name : FieldType → String
  | .boolean => "boolean"
  | .int => "int"
  | .long => "long"
  | .float => "float"
  | .double => "double"
  | .string => "string"
  | .bytes => "bytes"

/-- Every type with its name. -/
def wireNames : List (String × FieldType) :=
  [.boolean, .int, .long, .float, .double, .string, .bytes].map fun t => (t.name, t)

/-- The document of a type. -/
def toJson (t : FieldType) : Json := .str t.name

/-- Read a type. -/
def decoder : Decoder FieldType := Decoder.choice wireNames

instance : Document FieldType := ⟨toJson, decoder⟩

end FieldType

/-- A field of a record. -/
structure SchemaField where
  name : String
  type : FieldType
  deriving DecidableEq, Repr

namespace SchemaField

/-- The document of a field. -/
def toJson (f : SchemaField) : Json := .obj [("name", .str f.name), ("type", f.type.toJson)]

/-- Read a field. -/
def decoder : Decoder SchemaField := fun room j => do
  let r ← Row.read ["name", "type"] room j
  let name ← r.required "name" Decoder.string
  let type ← r.required "type" FieldType.decoder
  return ⟨name, type⟩

instance : Document SchemaField := ⟨toJson, decoder⟩

end SchemaField

/-- The schema of a record. -/
structure Schema where
  kind : String
  name : String
  fields : List SchemaField
  deriving DecidableEq, Repr

namespace Schema

/-- The schema of a record with fields. -/
def record (name : String) (fields : List (String × FieldType)) : Schema :=
  ⟨"record", name, fields.map fun f => ⟨f.1, f.2⟩⟩

/-- The document of a schema. -/
def toJson (s : Schema) : Json :=
  .obj [("type", .str s.kind), ("name", .str s.name),
    ("fields", Json.ofList SchemaField.toJson s.fields)]

/-- Read a schema. -/
def decoder : Decoder Schema := fun room j => do
  let r ← Row.read ["type", "name", "fields"] room j
  let kind ← r.required "type" Decoder.string
  let name ← r.required "name" Decoder.string
  let fields ← r.required "fields" (Decoder.list SchemaField.decoder)
  return ⟨kind, name, fields⟩

/-- The compact text of a schema. -/
def text (s : Schema) : String := s.toJson.text

/-- The schema of the rows in the source dataset of the projection pipelines. -/
def sourceRows : Schema :=
  record "event" [("ts", .long), ("ticker", .string), ("num", .int), ("price", .double)]

instance : Document Schema := ⟨toJson, decoder⟩

end Schema

end AccessHarness
