import AccessHarness.Proofs.Access.Documents
import AccessHarness.Proofs.Json.Arrangement

/-!
# Identities and requests are exchanged without loss

Whatever the names in it are, an entity, a principal, a privilege, a set of privileges and a
request that grants or revokes is decoded from its text as it was
(`Document.authorization_faithful`); so texts of different values are different, and a
revocation that names no actions is never taken for one that names an empty set of them.

### What is load-bearing

**An entity is a tag with fields.**  `EntityId.tag` and `EntityId.fields` are the two parts
of its document, and the five facts about them (which fields a tag declares, that their
names are different, that none of them is the tag itself, that their values are texts, and
which entity they make) are all that is proved kind by kind.

**Nothing is `null`.**  What a revocation does not name is left out.  A reader would take
`null` for a value that is not there as well, so it matters that the document of a principal
and that of a set of actions are never `null` (`Json.Row.Holds.optional`).
-/

namespace AccessHarness

open Json

/-! ### Names -/

theorem PrincipalKind.decoder_wireName (room : Nat) (k : PrincipalKind) :
    decoder room (.str k.wireName) = some k := by
  cases k <;> rfl

theorem Action.decoder_display (room : Nat) (a : Action) :
    decoder room (.str a.display) = some a := by
  cases a <;> rfl

theorem ProgramType.keptChoice_wireName (room : Nat) (t : ProgramType) :
    Decoder.keptChoice wireNames room (.str t.wireName) = some t := by
  cases t <;> rfl

/-! ### Principals and sets of actions -/

theorem Principal.exact : Document.Exact Principal 1 where
  plain _ := ⟨trivial, trivial, trivial⟩
  reads := by
    rintro p k room ⟨_, moved, ⟨_, _, rfl, ⟨_, _, rfl, rfl, rfl⟩, rfl⟩, order, rfl⟩
    obtain ⟨r, read, holds⟩ := Row.exists_read ["name", "type"] room order
      (by simp) (by simp)
    show Principal.decoder (room + 1) (.obj moved) = some p
    simp [Principal.decoder, read, holds.required, List.lookup_cons, Decoder.string,
      PrincipalKind.decoder_wireName]

/-- The set of the actions of a set is that set. -/
theorem ActionSet.ofList_toList (s : ActionSet) : ofList s.toList = s := by
  refine ext_contains ?_
  intro a
  rw [contains_ofList, Bool.eq_iff_iff, List.contains_iff_mem, mem_toList]

theorem ActionSet.exact : Document.Exact ActionSet 1 where
  plain s := by
    refine plainItems_iff.2 ?_
    intro j mem
    obtain ⟨a, -, rfl⟩ := List.mem_map.1 mem
    trivial
  reads := by
    rintro s k room ⟨items, arranged, rfl⟩
    have actions : Decoder.items (Action.decoder room) items = some s.toList := by
      refine Decoder.items_arranged ?_ arranged
      rintro a k rfl
      exact Action.decoder_display room a
    show (Decoder.items (Action.decoder room) items).map ActionSet.ofList = some s
    rw [actions, Option.map_some, ofList_toList]

/-! ### Entities -/

namespace EntityId

/-- The name of the kind of an entity. -/
def tag : EntityId → String
  | .platform _ => "INSTANCE"
  | .space _ => "NAMESPACE"
  | .artifact .. => "ARTIFACT"
  | .application .. => "APPLICATION"
  | .program .. => "PROGRAM"
  | .dataset .. => "DATASET"
  | .datasetModule .. => "DATASET_MODULE"
  | .datasetType .. => "DATASET_TYPE"
  | .stream .. => "STREAM"
  | .kerberosPrincipal _ => "KERBEROS_PRINCIPAL"

/-- The fields of an entity beside the name of its kind. -/
def fields : EntityId → List (String × Json)
  | .platform name => [("instance", .str name)]
  | .space ns => [("namespace", .str ns)]
  | .artifact ns name version =>
    [("namespace", .str ns), ("artifact", .str name), ("version", .str version)]
  | .application ns name => [("namespace", .str ns), ("application", .str name)]
  | .program ns app type name =>
    [("namespace", .str ns), ("application", .str app), ("type", .str type.wireName),
      ("program", .str name)]
  | .dataset ns name => [("namespace", .str ns), ("dataset", .str name)]
  | .datasetModule ns name => [("namespace", .str ns), ("module", .str name)]
  | .datasetType ns name => [("namespace", .str ns), ("type", .str name)]
  | .stream ns name => [("namespace", .str ns), ("stream", .str name)]
  | .kerberosPrincipal principal => [("principal", .str principal)]

variable (e : EntityId)

/-- **The document of an entity is its tag with its fields.** -/
theorem toJson_eq : e.toJson = .obj (("entity", .str e.tag) :: e.fields) := by
  cases e <;> rfl

theorem fieldNames_tag : fieldNames e.tag = some (e.fields.map (·.1)) := by
  cases e <;> rfl

theorem fields_distinct : (e.fields.map (·.1)).Nodup := by
  cases e <;> simp [fields]

theorem fields_untagged : ∀ f ∈ e.fields, f.1 ≠ "entity" := by
  cases e <;> simp [fields]

theorem fields_texts : ∀ f ∈ e.fields, ∃ s, f.2 = .str s := by
  cases e <;> simp [fields]

/-- The fields of an entity make that entity. -/
theorem ofRow_fields {r : Row} {room : Nat} (holds : r.Holds room e.fields) :
    ofRow e.tag r = some e := by
  cases e <;>
    simp [ofRow, tag, fields, holds.required, List.lookup_cons, Decoder.string,
      ProgramType.keptChoice_wireName]

/-- **An entity is read from its tag and its fields in any order.** -/
theorem decoder_moved {moved : List (String × Json)} (room : Nat)
    (order : moved.Perm (("entity", .str e.tag) :: e.fields)) :
    decoder (room + 1) (.obj moved) = some e := by
  have tagged : moved.filter (fun f => f.1 == "entity") = [("entity", .str e.tag)] := by
    have alone : e.fields.filter (fun f => f.1 == "entity") = [] := by
      refine List.filter_eq_nil_iff.2 ?_
      intro f mem
      simpa using e.fields_untagged f mem
    have kept := order.filter fun f => f.1 == "entity"
    rw [List.filter_cons_of_pos (by simp), alone] at kept
    exact List.perm_singleton.1 kept
  have rest : (moved.filter fun f => f.1 != "entity").Perm e.fields := by
    have all : e.fields.filter (fun f => f.1 != "entity") = e.fields := by
      refine List.filter_eq_self.2 ?_
      intro f mem
      simpa using e.fields_untagged f mem
    have kept := order.filter fun f => f.1 != "entity"
    rwa [List.filter_cons_of_neg (by simp), all] at kept
  have texts : ∀ f ∈ moved.filter (fun f => f.1 != "entity"), ∃ s, f.2 = .str s :=
    fun f mem => e.fields_texts f (rest.mem_iff.1 mem)
  -- the whole record is kept, but only the declared fields are read, and they are all there is
  obtain ⟨r, read, holds⟩ := Row.exists_read (e.fields.map (·.1)) room rest
    (fun f mem => List.mem_map_of_mem mem) e.fields_distinct
  simp [decoder, tagged, canonicalFields_texts room texts, e.fieldNames_tag, read,
    e.ofRow_fields holds]

theorem exact : Document.Exact EntityId 1 where
  plain e := by
    show e.toJson.Plain
    rw [toJson_eq]
    refine plainFields_iff.2 ?_
    rintro f (_ | ⟨_, mem⟩)
    · trivial
    · obtain ⟨s, text⟩ := e.fields_texts f mem
      rw [text]
      trivial
  reads := by
    intro e k room arranged
    change Arranges e.toJson k at arranged
    rw [toJson_eq] at arranged
    obtain ⟨_, moved, ⟨_, fields, rfl, arranged, rfl⟩, order, rfl⟩ := arranged
    rw [arranged.eq_of_texts e.fields_texts] at order
    exact e.decoder_moved room order

end EntityId

/-! ### Privileges and requests -/

theorem Privilege.exact : Document.Exact Privilege 2 where
  plain p := ⟨EntityId.exact.plain p.entity, trivial, trivial⟩
  reads := by
    rintro p k room ⟨_, moved, ⟨entity, _, arranged, ⟨_, _, rfl, rfl, rfl⟩, rfl⟩, order, rfl⟩
    obtain ⟨r, read, holds⟩ := Row.exists_read ["entity", "action"] (room + 1) order
      (by simp) (by simp)
    have decoded : EntityId.decoder (room + 1) entity = some p.entity :=
      EntityId.exact.reads p.entity entity room arranged
    show Privilege.decoder (room + 1 + 1) (.obj moved) = some p
    simp [Privilege.decoder, read, holds.required, List.lookup_cons, decoded,
      Action.decoder_display]

theorem GrantRequest.exact : Document.Exact GrantRequest 2 where
  plain g :=
    ⟨EntityId.exact.plain g.entity, Principal.exact.plain g.principal,
      ActionSet.exact.plain g.actions, trivial⟩
  reads := by
    rintro g k room ⟨_, moved, ⟨entity, _, forEntity, ⟨principal, _, forPrincipal,
      ⟨actions, _, forActions, rfl, rfl⟩, rfl⟩, rfl⟩, order, rfl⟩
    obtain ⟨r, read, holds⟩ := Row.exists_read ["entity", "principal", "actions"]
      (room + 1) order (by simp) (by simp)
    have decodedEntity : EntityId.decoder (room + 1) entity = some g.entity :=
      EntityId.exact.reads g.entity entity room forEntity
    have decodedPrincipal : Principal.decoder (room + 1) principal = some g.principal :=
      Principal.exact.reads g.principal principal room forPrincipal
    have decodedActions : ActionSet.decoder (room + 1) actions = some g.actions :=
      ActionSet.exact.reads g.actions actions room forActions
    show GrantRequest.decoder (room + 1 + 1) (.obj moved) = some g
    simp [GrantRequest.decoder, read, holds.required, List.lookup_cons, decodedEntity,
      decodedPrincipal, decodedActions]

/-- What a revocation does not name is not among its fields, and what it names is found
there. -/
theorem RevokeRequest.lookup_fields (entity : Json) (principal actions : Option Json) :
    let fields := [("entity", entity)] ++ optionalField "principal" id principal ++
      optionalField "actions" id actions
    fields.lookup "entity" = some entity ∧ fields.lookup "principal" = principal ∧
      fields.lookup "actions" = actions := by
  cases principal <;> cases actions <;> exact ⟨rfl, rfl, rfl⟩

theorem RevokeRequest.exact : Document.Exact RevokeRequest 2 where
  plain v := by
    obtain ⟨e, principal, actions⟩ := v
    have entity : e.toJson.Plain := EntityId.exact.plain e
    cases principal with
    | none =>
      cases actions with
      | none => exact ⟨entity, trivial⟩
      | some s => exact ⟨entity, ActionSet.exact.plain s, trivial⟩
    | some p =>
      cases actions with
      | none => exact ⟨entity, Principal.exact.plain p, trivial⟩
      | some s => exact ⟨entity, Principal.exact.plain p, ActionSet.exact.plain s, trivial⟩
  reads := by
    rintro ⟨e, principal, actions⟩ k room ⟨_, moved, arranged, order, rfl⟩
    -- an arrangement leaves out what the document leaves out
    obtain ⟨_, _, before, last, rfl⟩ := arranged.append
    obtain ⟨_, _, ⟨entity, _, forEntity, rfl, rfl⟩, second, rfl⟩ := before.append
    obtain ⟨principal', forPrincipal, rfl⟩ := second.optionalField
    obtain ⟨actions', forActions, rfl⟩ := last.optionalField
    obtain ⟨r, read, holds⟩ := Row.exists_read ["entity", "principal", "actions"] (room + 1) order
      (by cases principal' <;> cases actions' <;> simp [optionalField])
      (by cases principal' <;> cases actions' <;> simp [optionalField])
    obtain ⟨atEntity, atPrincipal, atActions⟩ :=
      RevokeRequest.lookup_fields entity principal' actions'
    have decodedEntity : EntityId.decoder (room + 1) entity = some e :=
      EntityId.exact.reads e entity room forEntity
    have decodedPrincipal : r.optional "principal" Principal.decoder = some principal :=
      holds.optional atPrincipal
        (Principal.exact.optional (fun _ => by simp [Document.toJson, Principal.toJson]) room
          forPrincipal)
    have decodedActions : r.optional "actions" ActionSet.decoder = some actions :=
      holds.optional atActions
        (ActionSet.exact.optional (fun _ => by simp [Document.toJson, ActionSet.toJson, ofList])
          room forActions)
    show RevokeRequest.decoder (room + 1 + 1) (.obj moved) = some ⟨e, principal, actions⟩
    simp only [RevokeRequest.decoder, read, holds.required, atEntity, decodedPrincipal,
      decodedActions, decodedEntity, Option.bind_eq_bind, Option.bind_some, Option.pure_def]

/-- **What a revocation does not name is left out of its document**, and an empty set of
actions is written as an empty list. -/
theorem RevokeRequest.field?_toJson (v : RevokeRequest) :
    v.toJson.field? "principal" = v.principal.map Principal.toJson ∧
      v.toJson.field? "actions" = v.actions.map ActionSet.toJson := by
  obtain ⟨e, principal, actions⟩ := v
  cases principal <;> cases actions <;> exact ⟨rfl, rfl⟩

/-! ### Everything that is exchanged about access -/

/-- **Identities, privileges and requests are exchanged without loss.**  Each is decoded from
its text as it was, whatever the order of the fields, and no two have one text.  A revocation
has a field for a principal and for actions exactly if it names them, and a field with an empty
list exactly if it names an empty set; so neither of these revocations is taken for another. -/
theorem Document.authorization_faithful :
    (Faithful EntityId ∧ Faithful Principal ∧ Faithful Privilege ∧
      Faithful (OrderedSet Privilege) ∧ Faithful GrantRequest ∧ Faithful RevokeRequest) ∧
    (∀ v : RevokeRequest,
      (v.toJson.field? "principal" = none ↔ v.principal = none) ∧
      (v.toJson.field? "actions" = none ↔ v.actions = none) ∧
      (v.toJson.field? "actions" = some (.arr []) ↔ v.actions = some .none)) ∧
    ∀ (e e' : EntityId) (p : Principal) (principal principal' : Option Principal)
      (actions actions' : Option ActionSet),
      text (RevokeRequest.mk e principal none).toJson ≠
        text (RevokeRequest.mk e' principal' (some .none)).toJson ∧
      text (RevokeRequest.mk e none actions).toJson ≠
        text (RevokeRequest.mk e' (some p) actions').toJson := by
  have revocations : Faithful RevokeRequest := RevokeRequest.exact.faithful (by decide)
  refine ⟨⟨EntityId.exact.faithful (by decide), Principal.exact.faithful (by decide),
    Privilege.exact.faithful (by decide), Privilege.exact.set.faithful (by decide),
    GrantRequest.exact.faithful (by decide), revocations⟩, ?_, ?_⟩
  · intro v
    obtain ⟨principal, actions⟩ := v.field?_toJson
    rw [principal, actions, Option.map_eq_none_iff, Option.map_eq_none_iff]
    refine ⟨Iff.rfl, Iff.rfl, ?_⟩
    constructor
    · intro empty
      obtain ⟨s, named, written⟩ := Option.map_eq_some_iff.1 empty
      have none : s = .none := ActionSet.toJson_injective written
      rw [named, none]
    · intro named
      rw [named]
      rfl
  · intro e e' p principal principal' actions actions'
    constructor
    · intro same
      cases revocations.text_injective same
    · intro same
      cases revocations.text_injective same

end AccessHarness
