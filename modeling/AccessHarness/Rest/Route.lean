import AccessHarness.Identity.Entity
import AccessHarness.Text.Percent

/-!
# Routes

The path of a resource: `/v3` and a percent-encoded segment for each part of its name.
-/

namespace AccessHarness.Route

/-- The path of a list of segments, as characters. -/
def chars (segments : List String) : List Char :=
  "/v3".toList ++
    segments.flatMap fun s => '/' :: Text.Percent.encodeBytes (Text.Percent.utf8 s.toList)

/-- The path of a list of segments. -/
def path (segments : List String) : String := String.ofList (chars segments)

/-- The path of a program and what is asked about it. -/
def program (p : ProgramId) (tail : String) : String :=
  path ["namespaces", p.ns.name, "apps", p.application.name, p.type.category, p.name, tail]

/-- The path of a dataset and what is asked about it. -/
def dataset (d : DatasetId) (tail : List String) : String :=
  path (["namespaces", d.ns.name, "data", "datasets", d.name] ++ tail)

/-- The path of a stream and what is asked about it. -/
def stream (s : StreamId) (tail : List String) : String :=
  path (["namespaces", s.ns.name, "streams", s.name] ++ tail)

end AccessHarness.Route
