import AccessHarness.Json.Document
import AccessHarness.Text.Quoted

/-!
# Documents about data

Datasets, streams and the rows of a table service.

Properties and rows are maps from text to text: in order, the last binding of a name
counting.
-/

namespace AccessHarness

open Json

/-- A map from text to text. -/
abbrev Properties := OrderedMap String String

namespace Properties

/-- The document of a map. -/
def toJson (m : Properties) : Json := .obj (m.entries.map fun x => (x.1, .str x.2))

/-- Read a map. -/
def decoder : Decoder Properties := Decoder.map Decoder.string

end Properties

/-- The document of a map to whole numbers. -/
def countsToJson (m : OrderedMap String Int) : Json :=
  .obj (m.entries.map fun x => (x.1, .ofInt x.2))

/-! ### Datasets -/

/-- What creates a dataset. -/
structure DatasetConfiguration where
  typeName : String
  properties : Properties
  description : Option String
  principal : Option String
  deriving DecidableEq

namespace DatasetConfiguration

/-- A dataset of a type, without properties. -/
def ofType (typeName : String) : DatasetConfiguration :=
  ⟨typeName, OrderedMap.empty, none, none⟩

/-- A plain table. -/
def table : DatasetConfiguration := ofType "table"

/-- The document of a configuration. -/
def toJson (c : DatasetConfiguration) : Json :=
  .obj ([("typeName", .str c.typeName), ("properties", c.properties.toJson)] ++
    optionalField "description" .str c.description ++
    optionalField "principal" .str c.principal)

/-- Read a configuration. -/
def decoder : Decoder DatasetConfiguration := fun room j => do
  let r ← Row.read ["typeName", "properties", "description", "principal"] room j
  let typeName ← r.required "typeName" Decoder.string
  let properties ← r.defaulted "properties" Properties.decoder OrderedMap.empty
  let description ← r.optional "description" Decoder.string
  let principal ← r.optional "principal" Decoder.string
  return ⟨typeName, properties, description, principal⟩

instance : Document DatasetConfiguration := ⟨toJson, decoder⟩

end DatasetConfiguration

/-- A dataset as it is listed. -/
structure DatasetSummary where
  name : String
  type : String
  description : Option String
  properties : Properties
  deriving DecidableEq

namespace DatasetSummary

/-- The document of a summary. -/
def toJson (s : DatasetSummary) : Json :=
  .obj [("name", .str s.name), ("type", .str s.type),
    ("description", ofOption .str s.description), ("properties", s.properties.toJson)]

/-- Read a summary. -/
def decoder : Decoder DatasetSummary := fun room j => do
  let r ← Row.read ["name", "type", "description", "properties"] room j
  let name ← r.required "name" Decoder.string
  let type ← r.required "type" Decoder.string
  let description ← r.optional "description" Decoder.string
  let properties ← r.defaulted "properties" Properties.decoder OrderedMap.empty
  return ⟨name, type, description, properties⟩

instance : Document DatasetSummary := ⟨toJson, decoder⟩

end DatasetSummary

/-- A dataset as it is described on its own. -/
structure DatasetMeta where
  spec : DatasetSummary
  hiveTable : Option String
  ownerPrincipal : Option String
  deriving DecidableEq

namespace DatasetMeta

/-- The document of a description. -/
def toJson (m : DatasetMeta) : Json :=
  .obj [("spec", m.spec.toJson), ("hiveTableName", ofOption .str m.hiveTable),
    ("ownerPrincipal", ofOption .str m.ownerPrincipal)]

/-- Read a description. -/
def decoder : Decoder DatasetMeta := fun room j => do
  let r ← Row.read ["spec", "hiveTableName", "ownerPrincipal"] room j
  let spec ← r.required "spec" DatasetSummary.decoder
  let hiveTable ← r.optional "hiveTableName" Decoder.string
  let ownerPrincipal ← r.optional "ownerPrincipal" Decoder.string
  return ⟨spec, hiveTable, ownerPrincipal⟩

instance : Document DatasetMeta := ⟨toJson, decoder⟩

end DatasetMeta

/-! ### Streams -/

/-- A stream as it is listed. -/
structure StreamDetail where
  name : String
  deriving DecidableEq, Repr

namespace StreamDetail

/-- The document of a stream. -/
def toJson (s : StreamDetail) : Json := .obj [("name", .str s.name)]

/-- Read a stream. -/
def decoder : Decoder StreamDetail := fun room j => do
  let r ← Row.read ["name"] room j
  let name ← r.required "name" Decoder.string
  return ⟨name⟩

instance : Document StreamDetail := ⟨toJson, decoder⟩

end StreamDetail

/-- The settings of a stream. -/
structure StreamProperties where
  /-- How long events are kept, in seconds. -/
  ttl : Option Nat := none
  /-- How much new data, in megabytes, is announced. -/
  notificationThreshold : Option Nat := none
  description : Option String := none
  ownerPrincipal : Option String := none
  deriving DecidableEq, Repr

namespace StreamProperties

/-- The document of the settings; what is not set is left out. -/
def toJson (p : StreamProperties) : Json :=
  .obj (optionalField "ttl" .ofNat p.ttl ++
    optionalField "notification.threshold.mb" .ofNat p.notificationThreshold ++
    optionalField "description" .str p.description ++
    optionalField "ownerPrincipal" .str p.ownerPrincipal)

/-- Read the settings. -/
def decoder : Decoder StreamProperties := fun room j => do
  let r ← Row.read ["ttl", "notification.threshold.mb", "description", "ownerPrincipal"] room j
  let ttl ← r.optional "ttl" (Decoder.nat UInt64.size)
  let notificationThreshold ← r.optional "notification.threshold.mb" (Decoder.nat UInt32.size)
  let description ← r.optional "description" Decoder.string
  let ownerPrincipal ← r.optional "ownerPrincipal" Decoder.string
  return { ttl, notificationThreshold, description, ownerPrincipal }

instance : Document StreamProperties := ⟨toJson, decoder⟩

end StreamProperties

/-- An event of a stream. -/
structure StreamEvent where
  timestamp : Int
  headers : Properties
  body : String
  deriving DecidableEq

namespace StreamEvent

/-- The document of an event. -/
def toJson (e : StreamEvent) : Json :=
  .obj [("timestamp", .ofInt e.timestamp), ("headers", e.headers.toJson), ("body", .str e.body)]

/-- Read an event. -/
def decoder : Decoder StreamEvent := fun room j => do
  let r ← Row.read ["timestamp", "headers", "body"] room j
  let timestamp ← r.required "timestamp" Decoder.int64
  let headers ← r.defaulted "headers" Properties.decoder OrderedMap.empty
  let body ← r.required "body" Decoder.string
  return ⟨timestamp, headers, body⟩

/-- An event as a value in a message. -/
def shown (e : StreamEvent) : String :=
  Text.shownRecord "StreamEvent" [("timestamp", Text.shownInt e.timestamp),
    ("headers", Text.shownSet (fun x => Text.quoted x.1 ++ ": " ++ Text.quoted x.2)
      e.headers.entries), ("body", Text.quoted e.body)]

instance : Document StreamEvent := ⟨toJson, decoder⟩

end StreamEvent

/-! ### Tables -/

/-- Asks a table for a row, or for some of its columns. -/
structure TableGet where
  row : String
  columns : Option (List String)
  deriving DecidableEq, Repr

namespace TableGet

/-- The document of a request. -/
def toJson (g : TableGet) : Json :=
  .obj ([("row", .str g.row)] ++ optionalField "columns" (Json.ofList .str) g.columns)

/-- Read a request. -/
def decoder : Decoder TableGet := fun room j => do
  let r ← Row.read ["row", "columns"] room j
  let row ← r.required "row" Decoder.string
  let columns ← r.optional "columns" (Decoder.list Decoder.string)
  return ⟨row, columns⟩

instance : Document TableGet := ⟨toJson, decoder⟩

end TableGet

/-- Writes columns of a row. -/
structure TablePut where
  row : String
  values : Properties
  deriving DecidableEq

namespace TablePut

/-- The document of a request. -/
def toJson (p : TablePut) : Json := .obj [("row", .str p.row), ("values", p.values.toJson)]

/-- Read a request. -/
def decoder : Decoder TablePut := fun room j => do
  let r ← Row.read ["row", "values"] room j
  let row ← r.required "row" Decoder.string
  let values ← r.required "values" Properties.decoder
  return ⟨row, values⟩

instance : Document TablePut := ⟨toJson, decoder⟩

end TablePut

/-- Adds to columns of a row. -/
structure TableIncrement where
  row : String
  values : OrderedMap String Int
  deriving DecidableEq

namespace TableIncrement

/-- The document of a request. -/
def toJson (i : TableIncrement) : Json :=
  .obj [("row", .str i.row), ("values", countsToJson i.values)]

/-- Read a request. -/
def decoder : Decoder TableIncrement := fun room j => do
  let r ← Row.read ["row", "values"] room j
  let row ← r.required "row" Decoder.string
  let values ← r.required "values" (Decoder.map Decoder.int64)
  return ⟨row, values⟩

instance : Document TableIncrement := ⟨toJson, decoder⟩

end TableIncrement

/-- A record of a time-partitioned fileset. -/
structure FilesetRecord where
  time : Int
  ticker : String
  num : Int
  price : Decimal.Binary64
  deriving DecidableEq

namespace FilesetRecord

/-- The document of a record. -/
def toJson (r : FilesetRecord) : Json :=
  .obj [("ts", .ofInt r.time), ("ticker", .str r.ticker), ("num", .ofInt r.num),
    ("price", .ofBinary64 r.price)]

/-- Read a record. -/
def decoder : Decoder FilesetRecord := fun room j => do
  let r ← Row.read ["ts", "ticker", "num", "price"] room j
  let time ← r.required "ts" Decoder.int64
  let ticker ← r.required "ticker" Decoder.string
  let num ← r.required "num" Decoder.int32
  let price ← r.required "price" Decoder.binary64
  return ⟨time, ticker, num, price⟩

instance : Document FilesetRecord := ⟨toJson, decoder⟩

end FilesetRecord

end AccessHarness
