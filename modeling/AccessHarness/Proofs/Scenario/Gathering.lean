import AccessHarness.Proofs.Rest.Creations
import AccessHarness.Proofs.Scenario.Following

/-!
# What a context keeps track of

The registry of a context says what has to be cleaned up in the end.  This file compares it with
what happened: what was created, and not removed since, ought to be in it.

* `ContextState.Registers` — what stands in the registry.
* `ContextState.Idles`, `Gathers`, `Keeps` — a stretch in which nothing is created or registered,
  one in which the registry keeps up with what happens and only grows, and one in which it keeps up.
* `ContextState.KeptIdly` — relations for which the steps that create nothing need one lemma each.
* `ContextAct.gathers_putJson` — whoever registers a thing right after creating it keeps up.
* `Context.keeps_deleteNamespace` — the only operation that takes something out of the registry.

### What is load-bearing

**All three are preorders, each within the next**, so a scenario keeps up as soon as its steps do
(`Program.Leads.bind`), and wherever it stops.

**Creating and registering is one step.**  Between the two the registry is behind, so they are not
looked at apart (`Program.Leads.bindTwo`).  A thing that was registered beforehand may be created at
any later time, as long as nothing leaves the registry (`ContextState.GathersWith`).
-/

namespace AccessHarness

open Program (Leads)
open Transcript (ExtendsWithin)
open Session (CreatesNothing)

namespace Program.Leads

variable {σ α β γ : Type} {env : Environment} {R : σ → σ → Prop} [IsPreorder σ R]

/-- Two steps that lead along a relation only together. -/
theorem bindTwo {m : Program σ α} {n : α → Program σ β} {k : β → Program σ γ}
    (h : Leads R env (m >>= n)) (hk : ∀ b, Leads R env (k b)) :
    Leads R env (m >>= fun a => n a >>= k) := by
  have regrouped : (m >>= fun a => n a >>= k) = (m >>= n) >>= k := (bind_assoc m n k).symm
  rw [regrouped]
  exact .bind h hk

end Program.Leads

/-! ### The registry and what happens -/

namespace ContextState

/-- **Whether a thing is registered for cleanup.** -/
def Registers (s : ContextState) : EntityId → Prop
  | .space ns => ⟨ns⟩ ∈ s.namespaces
  | e => e ∈ s.entities

theorem registers_congr {s s' : ContextState} (namespaces : s'.namespaces = s.namespaces)
    (entities : s'.entities = s.entities) (e : EntityId) : s'.Registers e ↔ s.Registers e := by
  cases e <;> simp [Registers, namespaces, entities]

instance (s : ContextState) (e : EntityId) : Decidable (s.Registers e) :=
  match e with
  | .space ns => inferInstanceAs (Decidable (⟨ns⟩ ∈ s.namespaces))
  | .platform _ | .artifact .. | .application .. | .program .. | .dataset .. | .datasetModule ..
  | .datasetType .. | .stream .. | .kerberosPrincipal _ =>
    inferInstanceAs (Decidable (_ ∈ s.entities))

/-- **Nothing is created, and nothing registered.** -/
structure Idles (s s' : ContextState) : Prop where
  within : ExtendsWithin Event.IsBarren s.transcript s'.transcript
  namespaces : s'.namespaces = s.namespaces
  entities : s'.entities = s.entities

/-- **The registry keeps up with what happens.** -/
structure Keeps (s s' : ContextState) : Prop where
  grows : s.transcript <:+ s'.transcript
  /-- What was registered still is, unless it was removed. -/
  kept : ∀ {e}, s.Registers e → (∀ y ∈ s'.transcript.since s.transcript, ¬ y.Removed e) →
    s'.Registers e
  /-- What was created and not removed is registered. -/
  gained : ∀ {e}, (s'.transcript.since s.transcript).Lasting e → s'.Registers e
  /-- A namespace is not registered before it is created. -/
  cause : ∀ {ns}, s'.Registers (.space ns) →
    s.Registers (.space ns) ∨ ∃ x ∈ s'.transcript.since s.transcript, x.Created (.space ns)

/-- **The registry keeps up, and nothing leaves it.** -/
structure Gathers (s s' : ContextState) : Prop extends Keeps s s' where
  stays : ∀ {e}, s.Registers e → s'.Registers e

/-- The same, where a thing is registered to begin with. -/
def GathersWith (e : EntityId) (s s' : ContextState) : Prop := s.Registers e → Gathers s s'

instance : IsPreorder ContextState Idles where
  refl s := ⟨refl_of _ s.transcript, rfl, rfl⟩
  trans _ _ _ h h' := ⟨trans_of _ h.within h'.within, h'.namespaces.trans h.namespaces,
    h'.entities.trans h.entities⟩

instance : IsPreorder ContextState Keeps where
  refl s := by
    refine ⟨List.suffix_refl _, fun registered _ => registered, ?_, .inl⟩
    intro e lasting
    rw [Transcript.since_self] at lasting
    exact absurd lasting (Transcript.not_lasting_of_barren (List.forall_mem_nil _))
  trans s s₁ s₂ h h' := by
    have whole := Transcript.since_trans h.grows h'.grows
    refine ⟨h.grows.trans h'.grows, ?_, ?_, ?_⟩
    · intro e registered unremoved
      rw [whole, List.forall_mem_append] at unremoved
      exact h'.kept (h.kept registered unremoved.2) unremoved.1
    · intro e lasting
      rw [whole, Transcript.lasting_append] at lasting
      rcases lasting with second | ⟨first, unremoved⟩
      · exact h'.gained second
      · exact h'.kept (h.gained first) unremoved
    · intro ns registered
      rw [whole]
      rcases h'.cause registered with middle | ⟨x, mem, created⟩
      · rcases h.cause middle with before | ⟨x, mem, created⟩
        · exact .inl before
        · exact .inr ⟨x, List.mem_append_right _ mem, created⟩
      · exact .inr ⟨x, List.mem_append_left _ mem, created⟩

instance : IsPreorder ContextState Gathers where
  refl s := ⟨refl_of Keeps s, id⟩
  trans _ _ _ h h' := ⟨trans_of Keeps h.toKeeps h'.toKeeps, fun registered =>
    h'.stays (h.stays registered)⟩

instance {e : EntityId} : IsPreorder ContextState (GathersWith e) where
  refl s _ := refl_of Gathers s
  trans _ _ _ h h' registered :=
    trans_of Gathers (h registered) (h' ((h registered).stays registered))

/-- A step that creates nothing, and drops nothing from the registry. -/
theorem gathers_of_barren {s s' : ContextState}
    (within : ExtendsWithin (fun x => ∀ e, ¬ x.Created e) s.transcript s'.transcript)
    (stays : ∀ {e}, s.Registers e → s'.Registers e) (same : s'.namespaces = s.namespaces) :
    Gathers s s' where
  grows := within.grows
  kept registered _ := stays registered
  gained lasting := by
    refine absurd lasting (Transcript.not_lasting_of_barren ?_)
    exact fun x mem => within.within x mem _
  cause registered := by
    refine .inl ?_
    show _ ∈ s.namespaces
    rwa [← same]
  stays := stays

/-- **A thing that was created and registered.** -/
theorem gathers_of_created {s s' : ContextState} {x : Event} {e : EntityId}
    (step : s'.transcript = x :: s.transcript) (created : x.Created e)
    (registered : ∀ e', s'.Registers e' ↔ e' = e ∨ s.Registers e') : Gathers s s' := by
  have since : s'.transcript.since s.transcript = [x] := by
    rw [step, Transcript.since_cons]
  have stays {e' : EntityId} (before : s.Registers e') : s'.Registers e' :=
    (registered e').2 (.inr before)
  refine ⟨⟨?_, fun before _ => stays before, ?_, ?_⟩, stays⟩
  · rw [step]
    exact List.suffix_cons x _
  · intro e' lasting
    rw [since, Transcript.lasting_singleton] at lasting
    exact (registered e').2 (.inl (lasting.asksFor.eq created.asksFor))
  · intro ns after
    rw [since]
    rcases (registered _).1 after with rfl | before
    · exact .inr ⟨x, List.mem_singleton_self x, created⟩
    · exact .inl before

theorem Idles.gathers {s s' : ContextState} (h : Idles s s') : Gathers s s' := by
  refine gathers_of_barren ⟨h.within.grows, ?_⟩ ?_ h.namespaces
  · exact fun x mem => (h.within.within x mem).not_created
  · exact fun registered => (registers_congr h.namespaces h.entities _).2 registered

/-- Relations that hold along a stretch in which nothing is created or registered. -/
class KeptIdly (R : ContextState → ContextState → Prop) : Prop where
  of_idles : ∀ {s s'}, Idles s s' → R s s'

instance : KeptIdly Idles := ⟨id⟩

instance : KeptIdly Gathers := ⟨Idles.gathers⟩

instance : KeptIdly Keeps := ⟨fun h => h.gathers.toKeeps⟩

instance {e : EntityId} : KeptIdly (GathersWith e) := ⟨fun h _ => h.gathers⟩

end ContextState

open ContextState (Idles Keeps Gathers GathersWith KeptIdly)

namespace Program.Leads

variable {α : Type} {env : Environment} {m : ContextAct α}

theorem keeps (h : Leads Gathers env m) : Leads Keeps env m := h.mono Gathers.toKeeps

theorem given {e : EntityId} (h : Leads Gathers env m) : Leads (GathersWith e) env m :=
  fun s _ => h s

/-- Once a thing is registered, the rest may rely on it. -/
theorem bindWith {e : EntityId} {β : Type} {k : α → ContextAct β} (hm : Leads Gathers env m)
    (registered : ∀ {s a s'}, m env s = (.ok a, s') → s'.Registers e)
    (hk : ∀ a, Leads (GathersWith e) env (k a)) : Leads Gathers env (m >>= k) := by
  intro s
  rw [bind_apply]
  have first := hm s
  rcases run : m env s with ⟨f | a, s₁⟩ <;> rw [run] at first
  · exact first
  · exact trans_of Gathers first (hk a s₁ (registered run))

end Program.Leads

variable {env : Environment} {α : Type}

/-! ### Plans -/

namespace PrivilegePlan

theorem mem_keys_plan (p : PrivilegePlan) (e : EntityId) (actions : List Action) (e' : EntityId) :
    e' ∈ (p.plan e actions).entries.keys ↔ e' = e ∨ e' ∈ p.entries.keys := by
  rw [OrderedMap.mem_keys_iff, OrderedMap.mem_keys_iff]
  unfold plan OrderedMap.contains
  by_cases same : e' = e
  · subst same
    rw [OrderedMap.find?_alter_self]
    exact iff_of_true rfl (.inl rfl)
  · rw [OrderedMap.find?_alter_ne _ _ same]
    exact ⟨.inr, fun h => h.resolve_left same⟩

/-- **A plan names what its steps are about.** -/
theorem mem_keys_ofSteps (steps : List (EntityId × List Action)) (e : EntityId) :
    e ∈ (ofSteps steps).entries.keys ↔ e ∈ steps.map (·.1) := by
  have planned (p : PrivilegePlan) :
      e ∈ (steps.foldl (fun p s => p.plan s.1 s.2) p).entries.keys ↔
        e ∈ steps.map (·.1) ∨ e ∈ p.entries.keys := by
    induction steps generalizing p with
    | nil => simp
    | cons step rest ih =>
      rw [List.foldl_cons, ih, mem_keys_plan, List.map_cons, List.mem_cons]
      rw [or_assoc, or_left_comm]
  rw [ofSteps, planned]
  exact or_iff_left List.not_mem_nil

end PrivilegePlan

/-! ### Changing privileges creates nothing -/

namespace AccessModel

variable (m : AccessModel)

theorem createsNothing_refresh : CreatesNothing env m.refresh := by
  unfold refresh
  cases m.policy with
  | invalidateOnMutation => exact m.admin.createsNothing_post m.invalidatePath .empty
  | stalenessWindow window => exact Session.createsNothing_sleep env window
  | manual => exact .pure ()

/-- **Nothing that an access model asks for creates anything.** -/
theorem advances_isBarren : m.Advances (ExtendsWithin Event.IsBarren) env where
  granted _ := .bind (m.admin.createsNothing_postJson _ _ _) fun _ => .pure _
  revoked _ := .bind (m.admin.createsNothing_postJson _ _ _) fun _ => .pure _
  listed _ := m.admin.createsNothing_get _ _
  refreshed := m.createsNothing_refresh

end AccessModel

/-! ### Steps that create nothing -/

namespace ContextAct

variable {R : ContextState → ContextState → Prop}

/-- What a comparison with a prediction comes to. -/
theorem verifyPrediction_apply (p : Principal) (requirements : List Requirement)
    (subject : String) (m : ContextAct α) (s : ContextState) :
    verifyPrediction p requirements subject m env s =
      (((s.access.ledger.expect p requirements).verify subject (.ofOutcome (m env s).1)).map
        fun _ => (), (m env s).2) := by
  unfold verifyPrediction expect ofOutcome
  simp only [Program.bind_apply, probe_apply]
  cases (s.access.ledger.expect p requirements).verify subject (.ofOutcome (m env s).1) <;> rfl

/-- To compare an operation with what is predicted for it adds nothing to it. -/
theorem leads_verifyPrediction (p : Principal) (requirements : List Requirement)
    (subject : String) {m : ContextAct α} (h : Leads R env m) :
    Leads R env (verifyPrediction p requirements subject m) := by
  intro s
  rw [verifyPrediction_apply]
  exact h s

variable [KeptIdly R]

theorem idle_liftM {m : AccessAct α}
    (h : AccessAct.Follows (ExtendsWithin Event.IsBarren) env m) :
    Leads R env (liftM m : ContextAct α) := fun s =>
  KeptIdly.of_idles ⟨h s.access, rfl, rfl⟩

theorem idle_session {m : Session α} (h : CreatesNothing env m) :
    Leads R env (liftM m : ContextAct α) := fun s =>
  KeptIdly.of_idles ⟨h s.access.transcript, rfl, rfl⟩

theorem idle_ofOutcome (o : Outcome α) : Leads R env (ofOutcome o) := fun s =>
  KeptIdly.of_idles (refl_of Idles s)

theorem idle_state : Leads R env state := fun s => KeptIdly.of_idles (refl_of Idles s)

theorem idle_expect (p : Principal) (requirements : List Requirement) :
    Leads R env (expect p requirements) := fun s => KeptIdly.of_idles (refl_of Idles s)

theorem idle_probe {m : Session α} (h : CreatesNothing env m) :
    Leads R env (liftM (Session.probe m) : ContextAct (Probe α)) := fun s =>
  KeptIdly.of_idles ⟨h s.access.transcript, rfl, rfl⟩

section

variable [IsPreorder ContextState R] (p : Principal) (e : EntityId) (a : Action) {m : Session α}

theorem idle_assertAllowed (h : CreatesNothing env m) :
    Leads R env (assertAllowed p e a m) :=
  .bind (idle_probe h) fun _ => idle_ofOutcome _

theorem idle_assertDenied (h : CreatesNothing env m) :
    Leads R env (assertDenied p e a m) :=
  .bind (idle_probe h) fun _ => idle_ofOutcome _

theorem idle_ensureRejected (shown : α → String) (what : String) (h : CreatesNothing env m) :
    Leads R env (ensureRejected shown what m) :=
  .bind (idle_probe h) fun _ => idle_ofOutcome _

end

end ContextAct

/-! ### The steps of scenarios -/

namespace Context

open ContextAct

section

variable (c : Context) {R : ContextState → ContextState → Prop} [KeptIdly R]

theorem idle_grant (p : Principal) (e : EntityId) (actions : List Action) :
    Leads R env (liftM (c.access.grant p e actions) : ContextAct Unit) :=
  idle_liftM (c.access.advances_isBarren.grant p e actions)

variable [IsPreorder ContextState R]

theorem idle_grantRequirements (p : Principal) (requirements : List Requirement) :
    Leads R env (c.grantRequirements p requirements) := by
  induction requirements with
  | nil => exact .pure ()
  | cons requirement rest ih =>
    obtain ⟨e, a⟩ := requirement
    exact .bind (c.idle_grant p e [a]) fun _ => ih

/-- Logging in registers nobody's things. -/
theorem idle_clientFor (user : String) : Leads R env (c.clientFor user) := by
  have remembered (client : RestClient) : Leads R env (ContextAct.update fun s =>
      { s with clients := s.clients.insert user client }) := fun s =>
    KeptIdly.of_idles ⟨refl_of _ s.transcript, rfl, rfl⟩
  unfold clientFor
  split
  · exact .pure _
  · refine .bind idle_state fun s => ?_
    split
    · exact .pure _
    · exact .bind (idle_session (RestClient.createsNothing_login _ _)) fun client =>
        .bind (remembered client) fun _ => .pure _

end

/-! ### The steps that register -/

theorem registers_registerNamespace (ns : NamespaceId) (s : ContextState) (e : EntityId) :
    (registerNamespace ns env s).2.Registers e ↔ e = ns.toEntity ∨ s.Registers e := by
  show (if s.namespaces.contains ns then s else _ : ContextState).Registers e ↔ _
  split
  · rename_i known
    rw [List.contains_iff_mem] at known
    refine ⟨.inr, ?_⟩
    rintro (rfl | registered)
    · exact known
    · exact registered
  · cases e with
    | space n =>
      show _ ∈ s.namespaces ++ [ns] ↔ EntityId.space n = .space ns.name ∨ _ ∈ s.namespaces
      rw [List.mem_append, List.mem_singleton, EntityId.space.injEq, or_comm]
      exact or_congr_left ⟨fun same => same ▸ rfl, fun same => same ▸ rfl⟩
    | _ => exact ⟨.inr, fun h => h.resolve_left nofun⟩

theorem registers_registerEntity {e : EntityId} (content : e.isNamespace = false)
    (s : ContextState) (e' : EntityId) :
    (registerEntity e env s).2.Registers e' ↔ e' = e ∨ s.Registers e' := by
  have other : ∀ ns, e ≠ .space ns := by
    rintro ns rfl
    cases content
  have stands (s' : ContextState) : s'.Registers e ↔ e ∈ s'.entities := by
    cases e with
    | space ns => exact absurd rfl (other ns)
    | _ => rfl
  show (if s.entities.contains e then s else _ : ContextState).Registers e' ↔ _
  split
  · rename_i known
    rw [List.contains_iff_mem, ← stands] at known
    refine ⟨.inr, ?_⟩
    rintro (rfl | registered)
    · exact known
    · exact registered
  · cases e' with
    | space n => exact ⟨.inr, fun h => h.resolve_left (other n).symm⟩
    | _ =>
      show _ ∈ s.entities ++ [e] ↔ _ ∨ _ ∈ s.entities
      rw [List.mem_append, List.mem_singleton, or_comm]

theorem access_registerNamespace (ns : NamespaceId) (s : ContextState) :
    (registerNamespace ns env s).2.access = s.access := by
  show (if s.namespaces.contains ns then s else _ : ContextState).access = _
  split <;> rfl

theorem access_registerEntity (e : EntityId) (s : ContextState) :
    (registerEntity e env s).2.access = s.access := by
  show (if s.entities.contains e then s else _ : ContextState).access = _
  split <;> rfl

/-- What is registered without being created does no harm. -/
theorem gathers_registerEntity {e : EntityId} (content : e.isNamespace = false) :
    Leads Gathers env (registerEntity e) := by
  intro s
  refine ContextState.gathers_of_barren ?_ ?_ ?_
  · show ExtendsWithin _ s.access.transcript (registerEntity e env s).2.access.transcript
    rw [access_registerEntity]
    exact refl_of _ s.transcript
  · exact fun registered => (registers_registerEntity content s _).2 (.inr registered)
  · show (if s.entities.contains e then s else _ : ContextState).namespaces = _
    split <;> rfl

theorem gathers_registerEntities {es : List EntityId}
    (content : ∀ e ∈ es, e.isNamespace = false) : Leads Gathers env (registerEntities es) := by
  induction es with
  | nil => exact .pure ()
  | cons e rest ih =>
    exact .bind (gathers_registerEntity (content e List.mem_cons_self)) fun _ =>
      ih fun e' mem => content e' (List.mem_cons_of_mem e mem)

/-- Nothing that can be deleted on its own is a namespace. -/
theorem isNamespace_of_isDeletable {e : EntityId} (deletable : isDeletable e = true) :
    e.isNamespace = false := by
  cases e with
  | space ns => cases deletable
  | _ => rfl

theorem isNamespace_of_mem_filter {es : List EntityId} :
    ∀ e ∈ es.filter isDeletable, e.isNamespace = false := fun _ mem =>
  isNamespace_of_isDeletable (List.mem_filter.1 mem).2

theorem registers_registerEntities (env : Environment) {es : List EntityId}
    (content : ∀ e ∈ es, e.isNamespace = false) (s : ContextState) {e : EntityId} (mem : e ∈ es) :
    (registerEntities es env s).2.Registers e := by
  induction es generalizing s with
  | nil => cases mem
  | cons first rest ih =>
    have others : ∀ e ∈ rest, e.isNamespace = false := fun e' mem =>
      content e' (List.mem_cons_of_mem first mem)
    show (registerEntities rest env (registerEntity first env s).2).2.Registers e
    rcases List.mem_cons.1 mem with rfl | mem
    · refine (gathers_registerEntities others _).stays ?_
      exact (registers_registerEntity (content e List.mem_cons_self) s e).2 (.inl rfl)
    · exact ih others _ mem

section

variable (c : Context) (p : Principal) (plan : PrivilegePlan)

theorem gathers_grantAll : Leads Gathers env (c.grantAll p plan) :=
  .bind (idle_liftM (c.access.advances_isBarren.grantAll p plan)) fun _ =>
    gathers_registerEntities isNamespace_of_mem_filter

/-- A plan that was granted was granted on everything that it names. -/
theorem eq_keys_of_grantAll {s : AccessState} {touched : List EntityId}
    (ended : (c.access.grantAll p plan env s).1 = .ok touched) : touched = plan.entries.keys := by
  unfold AccessModel.grantAll at ended
  obtain ⟨_, s₂, -, ended⟩ := Program.exists_of_bind_eq_ok (Prod.ext ended rfl)
  obtain ⟨_, s₃, -, ended⟩ := Program.exists_of_bind_eq_ok ended
  exact (Except.ok.inj (Prod.mk.inj ended).1).symm

/-- **What a plan names is registered** once the plan was granted. -/
theorem registers_of_grantAll {s s' : ContextState} {u : Unit}
    (run : c.grantAll p plan env s = (.ok u, s')) {e : EntityId} (mem : e ∈ plan.entries.keys)
    (deletable : isDeletable e = true) : s'.Registers e := by
  unfold grantAll at run
  obtain ⟨touched, s₁, granted, registered⟩ := Program.exists_of_bind_eq_ok run
  have all : touched = plan.entries.keys := by
    rw [liftM_apply, Prod.mk.injEq] at granted
    exact c.eq_keys_of_grantAll p plan granted.1
  have planned : e ∈ touched.filter isDeletable := List.mem_filter.2 ⟨all ▸ mem, deletable⟩
  have whole := registers_registerEntities env isNamespace_of_mem_filter s₁ planned
  rw [registered] at whole
  exact whole

end

end Context

/-! ### The steps that create -/

namespace ContextAct

variable {client : RestClient} {segments : List String} {document : Json} {e : EntityId}

section

variable (route : e.creationRoute? = some segments) (named : e.IsNamed)

include route named

/-- **To create a thing** fails without harm, or succeeds and leaves the registry as it was. -/
theorem putJson_cases (env : Environment) (s : ContextState) :
    (∃ f s', (liftM (client.putJson (Route.path segments) document) : ContextAct Unit) env s =
        (.error f, s') ∧ Gathers s s') ∨
      ∃ x s', (liftM (client.putJson (Route.path segments) document) : ContextAct Unit) env s =
        (.ok (), s') ∧ s'.transcript = x :: s.transcript ∧ x.Created e ∧
          ∀ e', s'.Registers e' ↔ s.Registers e' := by
  rw [liftM_session_apply]
  rcases client.putJson_cases env route named document s.transcript with
    ⟨f, t', run, nothing⟩ | ⟨x, run, created⟩
  · rw [run]
    refine .inl ⟨f, _, rfl, ContextState.gathers_of_barren nothing ?_ rfl⟩
    exact fun registered => (ContextState.registers_congr rfl rfl _).2 registered
  · rw [run]
    exact .inr ⟨x, _, rfl, rfl, created, ContextState.registers_congr rfl rfl⟩

/-- **Whoever registers a thing right after creating it keeps up.** -/
theorem gathers_putJson {register : ContextAct Unit}
    (apart : ∀ s, (register env s).2.access = s.access)
    (registers : ∀ s e', (register env s).2.Registers e' ↔ e' = e ∨ s.Registers e') :
    Leads Gathers env (do
      client.putJson (Route.path segments) document
      register : ContextAct Unit) := by
  intro s
  rw [Program.bind_apply]
  rcases putJson_cases route named env s with
    ⟨f, s', run, gathers⟩ | ⟨x, s', run, step, created, same⟩
  · rw [run]
    exact gathers
  · rw [run]
    have recorded : (register env s').2.transcript = x :: s.transcript :=
      (congrArg AccessState.transcript (apart s')).trans step
    refine ContextState.gathers_of_created recorded created ?_
    intro e'
    rw [registers, same]

/-- What was registered beforehand may be created at any time. -/
theorem gathersWith_putJson :
    Leads (GathersWith e) env (liftM (client.putJson (Route.path segments) document) :
      ContextAct Unit) := by
  intro s before
  rcases putJson_cases route named env s with
    ⟨f, s', run, gathers⟩ | ⟨x, s', run, step, created, same⟩
  · rw [run]
    exact gathers
  · rw [run]
    refine ContextState.gathers_of_created step created ?_
    intro e'
    rw [same]
    refine ⟨.inr, ?_⟩
    rintro (rfl | registered)
    · exact before
    · exact registered

end

end ContextAct

namespace Context

variable (client : RestClient)

open ContextAct

/-- A namespace is registered as soon as it is created. -/
theorem gathers_createNamespace (ns : TestNamespace) (name : Route.IsName ns.id.name) :
    Leads Gathers env (createNamespace client ns) := by
  have route : ns.id.toEntity.creationRoute? = some ["namespaces", ns.id.name] := rfl
  exact gathers_putJson route (EntityId.isNamed_space name) (access_registerNamespace ns.id)
    (registers_registerNamespace ns.id)

section

variable {e : EntityId} (content : e.isNamespace = false)

include content

/-- So is anything else that is registered right after it. -/
theorem gathers_putEntity {segments : List String} {document : Json}
    (route : e.creationRoute? = some segments) (named : e.IsNamed) :
    Leads Gathers env (do
      client.putJson (Route.path segments) document
      registerEntity e : ContextAct Unit) :=
  gathers_putJson route named (access_registerEntity e) (registers_registerEntity content)

end

theorem gathers_createStream (s : StreamId) (ns : Route.IsName s.ns.name)
    (name : Route.IsName s.name) : Leads Gathers env (do
      client.createStream s
      registerEntity s.toEntity : ContextAct Unit) :=
  gathers_putEntity client rfl rfl (EntityId.isNamed_stream ns name)

theorem gathers_createDataset (ds : DatasetId) (config : DatasetConfiguration)
    (ns : Route.IsName ds.ns.name) (name : Route.IsName ds.name) : Leads Gathers env (do
      client.createDataset ds config
      registerEntity ds.toEntity : ContextAct Unit) :=
  gathers_putEntity client rfl rfl (EntityId.isNamed_dataset ns name)

theorem gathersWith_createDataset (ds : DatasetId) (config : DatasetConfiguration)
    (ns : Route.IsName ds.ns.name) (name : Route.IsName ds.name) :
    Leads (GathersWith ds.toEntity) env (liftM (client.createDataset ds config) :
      ContextAct Unit) :=
  gathersWith_putJson rfl (EntityId.isNamed_dataset ns name)

theorem gathers_deployApp {C : Type} (app : ApplicationId) (encode : C → Json)
    (request : AppRequest C) (ns : Route.IsName app.ns.name) (name : Route.IsName app.name) :
    Leads Gathers env (do
      client.deployApp app encode request
      registerEntity app.toEntity : ContextAct Unit) :=
  gathers_putEntity client rfl rfl (EntityId.isNamed_application ns name)

/-- Uploading an artifact creates nothing that is cleaned up. -/
theorem gathers_deployTestApp (c : Context) (app : ApplicationId) (artifact : String)
    (config : Option Json) (owner : Option String) (ns : Route.IsName app.ns.name)
    (name : Route.IsName app.name) :
    Leads Gathers env (c.deployTestApp client app artifact config owner) := by
  have deployed (summary : ArtifactSummary) : Leads Gathers env (do
      client.deployApp app id ⟨summary, config, owner⟩
      registerEntity app.toEntity : ContextAct Unit) :=
    gathers_deployApp client app id _ ns name
  unfold deployTestApp
  cases c.settings.artifactDirectory with
  | none => exact .bind (.pure _) deployed
  | some directory =>
    exact .bind (idle_session (Session.createsNothing_fileContent _)) fun content =>
      .bind (idle_session (client.createsNothing_addArtifact _ [] content)) fun _ =>
        .bind (.pure _) deployed

/-- **Only what was removed leaves the registry.** -/
theorem keeps_deleteNamespace (ns : NamespaceId) (name : Route.IsName ns.name) :
    Leads Keeps env (deleteNamespace client ns) := by
  intro s
  unfold deleteNamespace
  rw [Program.bind_apply, liftM_session_apply]
  rcases client.deleteNamespace_cases env name s.transcript with
    ⟨f, t', run, nothing⟩ | ⟨x, run, barren, removes⟩
  · rw [run]
    exact KeptIdly.of_idles ⟨nothing, rfl, rfl⟩
  · rw [run]
    have since : Transcript.since (x :: s.transcript) s.transcript = [x] :=
      Transcript.since_cons x s.transcript
    refine ⟨List.suffix_cons x s.transcript, ?_, ?_, ?_⟩
    · intro e registered unremoved
      have stays : ¬ x.Removed e := unremoved x (since ▸ List.mem_singleton_self x)
      have apart : e ≠ ns.toEntity := fun same => stays (removes e (.inl same))
      have outside : e.isContainedIn ns = false :=
        Bool.eq_false_iff.2 fun inside => stays (removes e (.inr inside))
      cases e with
      | space n =>
        refine List.mem_filter.2 ⟨registered, ?_⟩
        rw [bne_iff_ne]
        rintro rfl
        exact apart rfl
      | _ => exact List.mem_filter.2 ⟨registered, by rw [outside]; rfl⟩
    · intro e lasting
      change (Transcript.since (x :: s.transcript) s.transcript).Lasting e at lasting
      rw [since, Transcript.lasting_singleton] at lasting
      exact absurd lasting (barren.not_created e)
    · intro n registered
      exact .inl (List.mem_filter.1 registered).1

end Context

end AccessHarness
