import AccessHarness.Pipeline.Config
import AccessHarness.Pipeline.Schema
import AccessHarness.Documents.Application
import AccessHarness.Proofs.Json.Records

/-!
# Pipeline documents are exchanged without loss

A schema, a batch or a streaming configuration, and a request for an application with either of
them, are decoded from their text as they were (`Document.pipelines_faithful`): every stage,
property, selector and connection, in the order in which it stood.

### What is load-bearing

**Each record is read back from its parts** (`Json.Row.Mirrors`).  What is proved of a record is
that its fields have different names and are found under them; the rest is known of the types of
its fields, down to texts and to the names of engines, scopes and types of fields.

**Nothing that can be left out is `null`.**  A selector, a configuration and an owner are left out
where there is none; a reader would take `null` for that as well, but none of them is ever written
so.
-/

namespace AccessHarness

open Json
open Document (Exact Faithful exact_string)

/-! ### Schemas -/

theorem FieldType.exact : Exact FieldType 0 :=
  .ofChoice (fun _ => rfl) rfl fun t => by cases t <;> rfl

theorem SchemaField.exact : Exact SchemaField 1 where
  plain _ := ⟨trivial, trivial, trivial⟩
  reads f k room arranged := by
    obtain ⟨r, read, row⟩ := Row.exists_mirror ["name", "type"] room arranged (by simp) (by simp)
    have name : r.required "name" Decoder.string = some f.name :=
      row.required exact_string (Nat.zero_le _) rfl
    have type : r.required "type" FieldType.decoder = some f.type :=
      row.required FieldType.exact (Nat.zero_le _) rfl
    show SchemaField.decoder (room + 1) k = some f
    simp [SchemaField.decoder, read, name, type]

theorem Schema.exact : Exact Schema 3 where
  plain s := ⟨trivial, trivial, SchemaField.exact.list.plain s.fields, trivial⟩
  reads s k room arranged := by
    obtain ⟨r, read, row⟩ := Row.exists_mirror ["type", "name", "fields"] (room + 2) arranged
      (by simp) (by simp)
    have kind : r.required "type" Decoder.string = some s.kind :=
      row.required exact_string (Nat.zero_le _) rfl
    have name : r.required "name" Decoder.string = some s.name :=
      row.required exact_string (Nat.zero_le _) rfl
    have fields : r.required "fields" (Decoder.list SchemaField.decoder) = some s.fields :=
      row.required SchemaField.exact.list (Nat.le_add_left _ _) rfl
    show Schema.decoder (room + 2 + 1) k = some s
    simp [Schema.decoder, read, kind, name, fields]

/-! ### Stages and connections -/

theorem ArtifactSelector.exact : Exact ArtifactSelector 1 where
  plain _ := ⟨trivial, trivial, trivial, trivial⟩
  reads a k room arranged := by
    obtain ⟨r, read, row⟩ := Row.exists_mirror ["scope", "name", "version"] room arranged
      (by simp) (by simp)
    have scope : r.required "scope" Decoder.string = some a.scope :=
      row.required exact_string (Nat.zero_le _) rfl
    have name : r.required "name" Decoder.string = some a.name :=
      row.required exact_string (Nat.zero_le _) rfl
    have version : r.required "version" Decoder.string = some a.version :=
      row.required exact_string (Nat.zero_le _) rfl
    show ArtifactSelector.decoder (room + 1) k = some a
    simp [ArtifactSelector.decoder, read, scope, name, version]

theorem PipelinePlugin.exact : Exact PipelinePlugin 2 where
  plain p := by
    have properties : p.properties.toJson.Plain := exact_string.map.plain p.properties
    refine plainFields_append.2 ⟨⟨trivial, trivial, properties, trivial⟩, ?_⟩
    exact plainFields_optionalField ArtifactSelector.exact.plain
  reads p k room arranged := by
    obtain ⟨r, read, row⟩ := Row.exists_mirror ["name", "type", "properties", "artifact"]
      (room + 1) arranged (by cases p.artifact <;> simp [optionalField])
      (by cases p.artifact <;> simp [optionalField])
    have name : r.required "name" Decoder.string = some p.name :=
      row.required exact_string (Nat.zero_le _) rfl
    have type : r.required "type" Decoder.string = some p.type :=
      row.required exact_string (Nat.zero_le _) rfl
    have properties : r.required "properties" Properties.decoder = some p.properties :=
      row.required exact_string.map (Nat.le_add_left _ _) rfl
    have artifact : r.optional "artifact" ArtifactSelector.decoder = some p.artifact :=
      row.optional ArtifactSelector.exact (Nat.le_add_left _ _) nofun
        (by cases p.artifact <;> rfl)
    show PipelinePlugin.decoder (room + 1 + 1) k = some p
    simp [PipelinePlugin.decoder, read, name, type, properties, artifact]

theorem PipelineStage.exact : Exact PipelineStage 3 where
  plain s := ⟨trivial, PipelinePlugin.exact.plain s.plugin, trivial⟩
  reads s k room arranged := by
    obtain ⟨r, read, row⟩ := Row.exists_mirror ["name", "plugin"] (room + 2) arranged
      (by simp) (by simp)
    have name : r.required "name" Decoder.string = some s.name :=
      row.required exact_string (Nat.zero_le _) rfl
    have plugin : r.required "plugin" PipelinePlugin.decoder = some s.plugin :=
      row.required PipelinePlugin.exact (Nat.le_add_left _ _) rfl
    show PipelineStage.decoder (room + 2 + 1) k = some s
    simp [PipelineStage.decoder, read, name, plugin]

theorem Connection.exact : Exact Connection 1 where
  plain _ := ⟨trivial, trivial, trivial⟩
  reads c k room arranged := by
    obtain ⟨r, read, row⟩ := Row.exists_mirror ["from", "to"] room arranged (by simp) (by simp)
    have origin : r.required "from" Decoder.string = some c.origin :=
      row.required exact_string (Nat.zero_le _) rfl
    have target : r.required "to" Decoder.string = some c.target :=
      row.required exact_string (Nat.zero_le _) rfl
    show Connection.decoder (room + 1) k = some c
    simp [Connection.decoder, read, origin, target]

/-! ### Configurations -/

theorem Engine.exact : Exact Engine 0 :=
  .ofChoice (fun _ => rfl) rfl fun e => by cases e <;> rfl

section

variable {r : Row} {room : Nat} {fields : List (String × Json)} {g : PipelineGraph}

/-- **A graph is read back in order**, wherever its stages and connections are written. -/
theorem PipelineGraph.required_of_mirrors (row : r.Mirrors (room + 4) fields)
    (stages : fields.lookup "stages" = some (Json.ofList PipelineStage.toJson g.stages))
    (connections :
      fields.lookup "connections" = some (Json.ofList Connection.toJson g.connections)) :
    r.required "stages" (Decoder.list PipelineStage.decoder) = some g.stages ∧
      r.required "connections" (Decoder.list Connection.decoder) = some g.connections :=
  ⟨row.required PipelineStage.exact.list (Nat.le_add_left _ _) stages,
    row.required Connection.exact.list (by omega) connections⟩

end

theorem BatchConfig.exact : Exact BatchConfig 5 where
  plain c := ⟨trivial, trivial, PipelineStage.exact.list.plain c.graph.stages,
    Connection.exact.list.plain c.graph.connections, trivial⟩
  reads c k room arranged := by
    obtain ⟨r, read, row⟩ := Row.exists_mirror ["schedule", "engine", "stages", "connections"]
      (room + 4) arranged (by simp) (by simp)
    have schedule : r.required "schedule" Decoder.string = some c.schedule :=
      row.required exact_string (Nat.zero_le _) rfl
    have engine : r.required "engine" Engine.decoder = some c.engine :=
      row.required Engine.exact (Nat.zero_le _) rfl
    obtain ⟨stages, connections⟩ := PipelineGraph.required_of_mirrors (g := c.graph) row rfl rfl
    show BatchConfig.decoder (room + 4 + 1) k = some c
    simp [BatchConfig.decoder, read, schedule, engine, stages, connections]

theorem StreamingConfig.exact : Exact StreamingConfig 5 where
  plain c := ⟨trivial, PipelineStage.exact.list.plain c.graph.stages,
    Connection.exact.list.plain c.graph.connections, trivial⟩
  reads c k room arranged := by
    obtain ⟨r, read, row⟩ := Row.exists_mirror ["batchInterval", "stages", "connections"]
      (room + 4) arranged (by simp) (by simp)
    have batchInterval : r.required "batchInterval" Decoder.string = some c.batchInterval :=
      row.required exact_string (Nat.zero_le _) rfl
    obtain ⟨stages, connections⟩ := PipelineGraph.required_of_mirrors (g := c.graph) row rfl rfl
    show StreamingConfig.decoder (room + 4 + 1) k = some c
    simp [StreamingConfig.decoder, read, batchInterval, stages, connections]

/-! ### Requests for applications -/

theorem ArtifactScope.exact : Exact ArtifactScope 0 :=
  .ofChoice (fun _ => rfl) rfl fun s => by cases s <;> rfl

theorem ArtifactSummary.exact : Exact ArtifactSummary 1 where
  plain _ := ⟨trivial, trivial, trivial, trivial⟩
  reads a k room arranged := by
    obtain ⟨r, read, row⟩ := Row.exists_mirror ["name", "version", "scope"] room arranged
      (by simp) (by simp)
    have name : r.required "name" Decoder.string = some a.name :=
      row.required exact_string (Nat.zero_le _) rfl
    have version : r.required "version" Decoder.string = some a.version :=
      row.required exact_string (Nat.zero_le _) rfl
    -- the scope is always written, so nothing has to stand for it
    have scope : r.defaulted "scope" ArtifactScope.decoder .user = some a.scope :=
      row.defaulted ArtifactScope.exact (Nat.zero_le _) .user rfl
    show ArtifactSummary.decoder (room + 1) k = some a
    simp [ArtifactSummary.decoder, read, name, version, scope]

/-- **A request is read back with its configuration**, whatever that is, as long as a missing one
is told from it. -/
theorem AppRequest.exact {C : Type} [Document C] {depth : Nat} (config : Exact C depth)
    (deep : 1 ≤ depth) (value : ∀ c : C, Document.toJson c ≠ .null) :
    Exact (AppRequest C) (depth + 1) where
  plain q := by
    refine plainFields_append.2 ⟨plainFields_append.2 ⟨⟨?_, trivial⟩, ?_⟩, ?_⟩
    · exact ArtifactSummary.exact.plain q.artifact
    · exact plainFields_optionalField config.plain
    · exact plainFields_optionalField fun _ => trivial
  reads q k room arranged := by
    obtain ⟨r, read, row⟩ := Row.exists_mirror ["artifact", "config", "principal"]
      (room + depth) arranged
      (by cases q.config <;> cases q.principal <;> simp [optionalField])
      (by cases q.config <;> cases q.principal <;> simp [optionalField])
    have artifact : r.required "artifact" ArtifactSummary.decoder = some q.artifact :=
      row.required ArtifactSummary.exact (by omega) rfl
    have configured : r.optional "config" Document.decoder = some q.config :=
      row.optional config (Nat.le_add_left _ _) value
        (by cases q.config <;> cases q.principal <;> rfl)
    have principal : r.optional "principal" Decoder.string = some q.principal :=
      row.optional exact_string (Nat.zero_le _) nofun
        (by cases q.config <;> cases q.principal <;> rfl)
    show AppRequest.decoder Document.decoder (room + depth + 1) k = some q
    simp [AppRequest.decoder, read, artifact, configured, principal]

/-! ### Everything that is exchanged about pipelines -/

/-- **Pipeline documents are exchanged without loss.**  A schema, a configuration of either kind,
and a request for an application with either, are decoded from their text as they were, whatever
the order of the fields of each record, and no two have one text. -/
theorem Document.pipelines_faithful :
    Faithful Schema ∧ Faithful BatchConfig ∧ Faithful StreamingConfig ∧
      Faithful (AppRequest BatchConfig) ∧ Faithful (AppRequest StreamingConfig) := by
  have batch : Exact (AppRequest BatchConfig) 6 :=
    AppRequest.exact BatchConfig.exact (by decide) nofun
  have streaming : Exact (AppRequest StreamingConfig) 6 :=
    AppRequest.exact StreamingConfig.exact (by decide) nofun
  exact ⟨Schema.exact.faithful (by decide), BatchConfig.exact.faithful (by decide),
    StreamingConfig.exact.faithful (by decide), batch.faithful (by decide),
    streaming.faithful (by decide)⟩

end AccessHarness
