import AccessHarness.Pipeline.Plugins
import AccessHarness.Routes.Data

/-!
# Rows of the projection pipelines

The one row the projection pipelines start from, and the records they leave in a
time-partitioned fileset.  Both go through the services of the application that gives
access to the datasets.
-/

namespace AccessHarness.Pipeline

/-- The row the pipelines start from. -/
def sourceRow : TablePut :=
  ⟨"1", OrderedMap.ofList
    [("ts", "234"), ("ticker", "AAPL"), ("num", "10"), ("price", "500.32")]⟩

/-- Write the row the pipelines start from. -/
def ingestSourceRow (c : RestClient) (service : Url) (ns : NamespaceId) : Session Unit :=
  c.tablePut service (ns.dataset sourceDataset) sourceRow

/-- The records of a fileset with partition times from `start` on and before `stop`. -/
def readFileset (c : RestClient) (service : Url) (name : String) (start stop : Int) :
    Session (List FilesetRecord) := do
  let url ← Session.ofOutcome (resolveService service ("tpfs/" ++ Text.Percent.encode name ++
    "?startTime=" ++ toString start ++ "&endTime=" ++ toString stop))
  let r ← c.execute "GET" url [] .empty
  Session.ofOutcome (decodeBody (Json.Decoder.list FilesetRecord.decoder) r.body)

end AccessHarness.Pipeline
