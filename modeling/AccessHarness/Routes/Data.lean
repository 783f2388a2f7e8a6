import AccessHarness.Documents.Data
import AccessHarness.Rest.Client

/-!
# Dataset, stream and table routes

The table routes are those of a dataset service: they lie below the URL of its methods,
and it touches the dataset as the owner of its application.
-/

namespace AccessHarness.RestClient

/-! ### Datasets -/

/-- Create a dataset. -/
def createDataset (c : RestClient) (d : DatasetId) (config : DatasetConfiguration) :
    Session Unit :=
  c.putJson (Route.dataset d []) config.toJson

/-- Whether a dataset exists; a refusal is a fault, not `false`. -/
def datasetExists (c : RestClient) (d : DatasetId) : Session Bool := do
  let found ← c.getOption DatasetMeta.decoder (Route.dataset d [])
  return found.isSome

/-- The datasets of a namespace. -/
def listDatasets (c : RestClient) (ns : NamespaceId) : Session (List DatasetSummary) :=
  c.get (Json.Decoder.list DatasetSummary.decoder)
    (Route.path ["namespaces", ns.name, "data", "datasets"])

/-- Describe a dataset. -/
def describeDataset (c : RestClient) (d : DatasetId) : Session DatasetMeta :=
  c.get DatasetMeta.decoder (Route.dataset d [])

/-- Replace the properties of a dataset. -/
def updateDataset (c : RestClient) (d : DatasetId) (properties : Properties) : Session Unit :=
  c.putJson (Route.dataset d ["properties"]) properties.toJson

/-- Remove all data of a dataset. -/
def truncateDataset (c : RestClient) (d : DatasetId) : Session Unit :=
  c.postEmpty (Route.dataset d ["admin", "truncate"])

/-- Delete a dataset. -/
def deleteDataset (c : RestClient) (d : DatasetId) : Session Unit :=
  c.delete (Route.dataset d [])

/-! ### Streams -/

/-- Create a stream with no settings of its own. -/
def createStream (c : RestClient) (s : StreamId) : Session Unit :=
  c.putJson (Route.stream s []) (StreamProperties.toJson {})

/-- Delete a stream. -/
def deleteStream (c : RestClient) (s : StreamId) : Session Unit :=
  c.delete (Route.stream s [])

/-- The streams of a namespace. -/
def listStreams (c : RestClient) (ns : NamespaceId) : Session (List StreamDetail) :=
  c.get (Json.Decoder.list StreamDetail.decoder) (Route.path ["namespaces", ns.name, "streams"])

/-- Remove all events of a stream. -/
def truncateStream (c : RestClient) (s : StreamId) : Session Unit :=
  c.postEmpty (Route.stream s ["truncate"])

/-- The settings of a stream. -/
def streamProperties (c : RestClient) (s : StreamId) : Session StreamProperties :=
  c.get StreamProperties.decoder (Route.stream s ["properties"])

/-- Change the settings of a stream. -/
def setStreamProperties (c : RestClient) (s : StreamId) (p : StreamProperties) : Session Unit :=
  c.putJson (Route.stream s ["properties"]) p.toJson

/-- Write an event. -/
def sendEvent (c : RestClient) (s : StreamId) (event : String) : Session Unit :=
  c.post (Route.stream s []) (.text event)

/-- The events from `start` on and before `stop`, at most `limit` of them; no answer body
means no events. -/
def events (c : RestClient) (s : StreamId) (start stop : Int) (limit : Nat) :
    Session (List StreamEvent) := do
  let found ← c.get (Json.Decoder.option (Json.Decoder.list StreamEvent.decoder))
    (Route.stream s ["events"] ++ "?start=" ++ toString start ++ "&end=" ++ toString stop ++
      "&limit=" ++ Nat.repr limit)
  return found.getD []

/-! ### Tables -/

/-- Post a document to an operation of a dataset service. -/
def callTable {α : Type} (c : RestClient) (base : Url) (d : Json.Decoder α) (ds : DatasetId)
    (operation : String) (document : Json) : Session α := do
  let url ← Session.ofOutcome (resolveService base
    ("namespaces/" ++ Text.Percent.encode ds.ns.name ++ "/datasets/" ++
      Text.Percent.encode ds.name ++ "/" ++ operation))
  let r ← c.execute "POST" url [] (.json document)
  Session.ofOutcome (decodeBody d r.body)

/-- Read a row. -/
def tableGet (c : RestClient) (base : Url) (ds : DatasetId) (request : TableGet) :
    Session Properties :=
  c.callTable base Properties.decoder ds "get" request.toJson

/-- Write a row. -/
def tablePut (c : RestClient) (base : Url) (ds : DatasetId) (request : TablePut) :
    Session Unit := do
  let _ ← c.callTable base Json.Decoder.any ds "put" request.toJson
  return ()

/-- Add to a row, and read what was added to. -/
def tableIncrement (c : RestClient) (base : Url) (ds : DatasetId) (request : TableIncrement) :
    Session (OrderedMap String Int) :=
  c.callTable base (Json.Decoder.map Json.Decoder.int64) ds "incrementAndGet" request.toJson

end AccessHarness.RestClient
