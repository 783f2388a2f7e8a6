import AccessHarness.Proofs.Identity.Hierarchy
import AccessHarness.Proofs.Rest.Sending
import AccessHarness.Proofs.Scenario.Calls
import AccessHarness.Proofs.Scenario.Deletion
import AccessHarness.Proofs.Scenario.Gathering
import AccessHarness.Proofs.Scenario.Series
import AccessHarness.Proofs.Scenario.Teardown

/-!
# The order of the registry

A context registers what it has to clean up, and cleans up in reverse order.  What stands in the
registry, and where, is told here from the calls that were made and what came of them, without
looking at any state in between.

* `RegistryStep` — a thing is entered, or some things are dropped; a history is a list of these.
* `InOrder` — a list of what was entered and not dropped since, in the order of first entries; a
  history has one such list (`InOrder.eq`).
* `RegistryCall` — the calls that concern the registry; `RegistryCall.made` keeps their outcomes.
* `RegistryCall.takes_run` — what each call does to both registries, by its outcome.
* `Context.registry_in_order` — both registries after any run, and what is sure to stand in them.

### What is load-bearing

**A registry is a fold over its history** (`inOrder_foldl`): what one step keeps is shown for a list
and a history (`InOrder.apply`), and calls are looked at only for the steps they take.

**Who was told that a thing was created goes on to register it** (`ContextAct.Puts`).  A call that
creates makes one request to put something; whatever it does before asks for no such thing, and
nothing that can fail comes after.
-/

namespace AccessHarness

open Program (Leads)
open Transcript (ExtendsWithin)

/-! ### Histories of a registry -/

/-- What happens to a registry. -/
inductive RegistryStep (α : Type) where
  | entered (x : α)
  | dropped (gone : α → Bool)

namespace RegistryStep

variable {α : Type} [DecidableEq α]

/-- What a step makes of a list: a thing is entered once, at the end. -/
def apply (l : List α) : RegistryStep α → List α
  | .entered x => if l.contains x then l else l ++ [x]
  | .dropped gone => l.filter fun x => !gone x

/-- Whether a step drops a thing. -/
def Drops (x : α) : RegistryStep α → Prop
  | .entered _ => False
  | .dropped gone => gone x = true

end RegistryStep

section Histories

variable {α : Type} {history : List (RegistryStep α)} {step : RegistryStep α} {x : α} {n : Nat}

/-- **Whether a thing is registered**: it was entered, and not dropped since. -/
def Registered (history : List (RegistryStep α)) (x : α) : Prop :=
  ∃ before after, history = before ++ .entered x :: after ∧ ∀ step ∈ after, ¬ step.Drops x

/-- **When a thing was first entered** since it was last dropped: it was not registered then, and
was not dropped later. -/
def FirstEntered (history : List (RegistryStep α)) (x : α) (n : Nat) : Prop :=
  ∃ before after, history = before ++ .entered x :: after ∧ before.length = n ∧
    ¬ Registered before x ∧ ∀ step ∈ after, ¬ step.Drops x

/-- **A registry in order**: it lists what is registered, each thing once, the one that was first
entered earlier before the other. -/
structure InOrder (history : List (RegistryStep α)) (l : List α) : Prop where
  nodup : l.Nodup
  mem_iff : ∀ {x}, x ∈ l ↔ Registered history x
  ordered : l.Pairwise fun x y =>
    ∃ m n, FirstEntered history x m ∧ FirstEntered history y n ∧ m < n

theorem not_registered_nil : ¬ Registered [] x := by
  rintro ⟨before, after, split, -⟩
  cases before <;> cases split

/-- What is registered after one more step. -/
theorem registered_concat :
    Registered (history ++ [step]) x ↔
      step = .entered x ∨ Registered history x ∧ ¬ step.Drops x := by
  constructor
  · rintro ⟨before, after, split, kept⟩
    rcases List.eq_nil_or_concat after with rfl | ⟨after, last, rfl⟩
    · exact .inl (List.singleton_injective (List.append_inj' split rfl).2)
    · rw [List.concat_eq_append] at split kept
      rw [← List.cons_append, ← List.append_assoc] at split
      obtain ⟨rfl, same⟩ := List.append_inj' split rfl
      obtain rfl := List.singleton_injective same
      rw [List.forall_mem_append, List.forall_mem_singleton] at kept
      exact .inr ⟨⟨before, after, rfl, kept.1⟩, kept.2⟩
  · rintro (rfl | ⟨⟨before, after, rfl, kept⟩, undropped⟩)
    · exact ⟨history, [], rfl, List.forall_mem_nil _⟩
    · refine ⟨before, after ++ [step], by simp, ?_⟩
      rw [List.forall_mem_append, List.forall_mem_singleton]
      exact ⟨kept, undropped⟩

theorem FirstEntered.lt (h : FirstEntered history x n) : n < history.length := by
  obtain ⟨before, after, rfl, rfl, -, -⟩ := h
  rw [List.length_append, List.length_cons]
  omega

/-- Later steps do not change when a thing was first entered, unless they drop it. -/
theorem FirstEntered.concat (h : FirstEntered history x n) (undropped : ¬ step.Drops x) :
    FirstEntered (history ++ [step]) x n := by
  obtain ⟨before, after, rfl, place, fresh, kept⟩ := h
  refine ⟨before, after ++ [step], by simp, place, fresh, ?_⟩
  rw [List.forall_mem_append, List.forall_mem_singleton]
  exact ⟨kept, undropped⟩

theorem firstEntered_concat_self (fresh : ¬ Registered history x) :
    FirstEntered (history ++ [.entered x]) x history.length :=
  ⟨history, [], rfl, rfl, fresh, List.forall_mem_nil _⟩

/-- **Whatever is registered was entered a first time.** -/
theorem Registered.exists_firstEntered (h : Registered history x) :
    ∃ n, FirstEntered history x n := by
  induction history using List.reverseRecOn with
  | nil => exact absurd h not_registered_nil
  | append_singleton history step ih =>
    rcases registered_concat.1 h with rfl | ⟨before, undropped⟩
    · by_cases known : Registered history x
      · obtain ⟨n, first⟩ := ih known
        exact ⟨n, first.concat id⟩
      · exact ⟨history.length, firstEntered_concat_self known⟩
    · obtain ⟨n, first⟩ := ih before
      exact ⟨n, first.concat undropped⟩

private theorem FirstEntered.le {m : Nat} (h : FirstEntered history x m)
    (h' : FirstEntered history x n) : m ≤ n := by
  obtain ⟨before, after, rfl, rfl, fresh, kept⟩ := h
  obtain ⟨before', after', split, rfl, fresh', kept'⟩ := h'
  rcases List.append_eq_append_iff.1 split with ⟨middle, rfl, rest⟩ | ⟨middle, rfl, rest⟩
  · rw [List.length_append]
    exact Nat.le_add_right _ _
  · cases middle with
    | nil => rw [List.append_nil]
    | cons step middle =>
      -- what was entered earlier was still registered here
      obtain ⟨rfl, rfl⟩ := List.cons.inj rest
      exact absurd ⟨before', middle, rfl, fun step mem =>
        kept' step (List.mem_append_left _ mem)⟩ fresh

/-- A thing is first entered once. -/
theorem FirstEntered.eq {m : Nat} (h : FirstEntered history x m) (h' : FirstEntered history x n) :
    m = n :=
  Nat.le_antisymm (h.le h') (h'.le h)

/-- **A history has one registry in order.** -/
theorem InOrder.eq {l l' : List α} (h : InOrder history l) (h' : InOrder history l') : l = l' := by
  have same : l.Perm l' := (List.perm_ext_iff_of_nodup h.nodup h'.nodup).2 fun x =>
    h.mem_iff.trans h'.mem_iff.symm
  refine same.eq_of_pairwise ?_ h.ordered h'.ordered
  rintro x y - - ⟨m, n, hx, hy, before⟩ ⟨n', m', hy', hx', after⟩
  rw [hx.eq hx', hy.eq hy'] at before
  exact absurd before after.not_gt

variable [DecidableEq α]

/-- **Every step keeps a registry in order.** -/
theorem InOrder.apply {l : List α} (h : InOrder history l) (step : RegistryStep α) :
    InOrder (history ++ [step]) (step.apply l) := by
  have later {x y : α} (undropped : ¬ step.Drops x ∧ ¬ step.Drops y)
      (first : ∃ m n, FirstEntered history x m ∧ FirstEntered history y n ∧ m < n) :
      ∃ m n, FirstEntered (history ++ [step]) x m ∧ FirstEntered (history ++ [step]) y n ∧
        m < n := by
    obtain ⟨m, n, hx, hy, lt⟩ := first
    exact ⟨m, n, hx.concat undropped.1, hy.concat undropped.2, lt⟩
  cases step with
  | entered x =>
    have kept : l.Pairwise _ := h.ordered.imp fun first => later ⟨id, id⟩ first
    have registered {y : α} : Registered (history ++ [.entered x]) y ↔ y ∈ l ∨ y = x := by
      rw [registered_concat, RegistryStep.entered.injEq, h.mem_iff, or_comm, eq_comm]
      exact or_congr_left (and_iff_left id)
    by_cases known : x ∈ l
    · have same : RegistryStep.apply l (.entered x) = l := if_pos (List.contains_iff_mem.2 known)
      rw [same]
      refine ⟨h.nodup, ?_, kept⟩
      intro y
      rw [registered]
      refine ⟨.inl, ?_⟩
      rintro (mem | rfl)
      · exact mem
      · exact known
    · have longer : RegistryStep.apply l (.entered x) = l ++ [x] :=
        if_neg (mt List.contains_iff_mem.1 known)
      have fresh : ¬ Registered history x := mt h.mem_iff.2 known
      rw [longer]
      refine ⟨?_, ?_, ?_⟩
      · rw [← List.concat_eq_append]
        exact h.nodup.concat known
      · intro y
        rw [registered, List.mem_append, List.mem_singleton]
      · refine List.pairwise_append.2 ⟨kept, List.pairwise_singleton _ x, ?_⟩
        intro y mem z last
        rw [List.mem_singleton.1 last]
        obtain ⟨n, first⟩ := (h.mem_iff.1 mem).exists_firstEntered
        exact ⟨n, history.length, first.concat id, firstEntered_concat_self fresh, first.lt⟩
  | dropped gone =>
    have stays {y : α} (mem : y ∈ l.filter fun x => !gone x) :
        ¬ (RegistryStep.dropped gone).Drops y := by
      intro drops
      have undropped := (List.mem_filter.1 mem).2
      rw [show gone y = true from drops] at undropped
      cases undropped
    refine ⟨h.nodup.filter _, ?_, ?_⟩
    · intro y
      show y ∈ l.filter _ ↔ _
      rw [registered_concat, List.mem_filter, h.mem_iff, Bool.not_eq_true', ← Bool.not_eq_true]
      exact ⟨.inr, fun registered => registered.resolve_left nofun⟩
    · refine (h.ordered.filter _).imp_of_mem ?_
      exact fun memx memy first => later ⟨stays memx, stays memy⟩ first

/-- **A registry that is kept step by step is in order.** -/
theorem inOrder_foldl (history : List (RegistryStep α)) :
    InOrder history (history.foldl RegistryStep.apply []) := by
  induction history using List.reverseRecOn with
  | nil =>
    refine ⟨.nil, ?_, .nil⟩
    intro x
    exact iff_of_false List.not_mem_nil not_registered_nil
  | append_singleton history step ih =>
    rw [List.foldl_concat]
    exact ih.apply step

end Histories

/-! ### Calls -/

/-- **A call that concerns the registry of a context.** -/
inductive RegistryCall where
  | context (call : ContextCall)
  | deployTestApp (client : RestClient) (app : ApplicationId) (artifact : String)
    (config : Option Json) (owner : Option String)
  | teardown

/-- A call that was made. -/
structure MadeCall where
  call : RegistryCall
  /-- What came of it. -/
  outcome : Outcome Unit
  /-- What happened meanwhile. -/
  events : Transcript

/-- A request to put something was carried out. -/
def Event.IsPut (x : Event) : Prop :=
  ∃ r reply, x = .exchanged r reply ∧ r.method = "PUT" ∧ reply.isAccepted = true

namespace RegistryCall

variable (c : Context) (env : Environment)

/-- The operation of a call. -/
def run : RegistryCall → ContextAct Unit
  | .context call => call.run c
  | .deployTestApp client app artifact config owner =>
    c.deployTestApp client app artifact config owner
  | .teardown => c.teardown

/-- A call with what comes of it in a state. -/
def madeIn (call : RegistryCall) (s : ContextState) : MadeCall where
  call := call
  outcome := (call.run c env s).1
  events := (call.run c env s).2.transcript.since s.transcript

/-- Some calls, each made whatever came of those before. -/
def made : List RegistryCall → ContextState → List MadeCall
  | [], _ => []
  | call :: rest, s => call.madeIn c env s :: made rest (call.run c env s).2

/-- The state after some calls. -/
def after (calls : List RegistryCall) (s : ContextState) : ContextState :=
  Program.inTurn env (calls.map fun call => call.run c) s

/-- What a call is to create and register. -/
def creates? : RegistryCall → Option EntityId
  | .context (.createNamespace _ ns) => some ns.id.toEntity
  | .deployTestApp _ app _ _ _ => some app.toEntity
  | _ => none

end RegistryCall

namespace MadeCall

/-- What is done if a call succeeds, and only then. -/
def ifDone {β : Type} (outcome : Outcome Unit) (steps : List β) : List β :=
  match outcome with
  | .ok () => steps
  | .error _ => []

@[simp] theorem ifDone_nil {β : Type} (outcome : Outcome Unit) :
    ifDone outcome ([] : List β) = [] := by
  cases outcome <;> rfl

@[simp] theorem ifDone_ok {β : Type} (steps : List β) : ifDone (.ok ()) steps = steps := rfl

theorem mem_ifDone {β : Type} {outcome : Outcome Unit} {steps : List β} {b : β} :
    b ∈ ifDone outcome steps ↔ outcome = .ok () ∧ b ∈ steps := by
  cases outcome with
  | error f => exact iff_of_false List.not_mem_nil nofun
  | ok u => exact (and_iff_right rfl).symm

/-- What a call does to the registered namespaces: one that is created is entered if that succeeds,
one that is deleted leaves if that succeeds, and a teardown drops them all. -/
def namespaceSteps (m : MadeCall) : List (RegistryStep NamespaceId) :=
  match m.call with
  | .context (.registerNamespace ns) => [.entered ns]
  | .context (.createNamespace _ ns) => ifDone m.outcome [.entered ns.id]
  | .context (.deleteNamespace _ ns) => ifDone m.outcome [.dropped fun n => n == ns]
  | .teardown => [.dropped fun _ => true]
  | _ => []

/-- What a call does to the registered entities: what was deployed is entered, and what a granted
plan names and can be deleted, in the order of the plan; a namespace that is deleted takes along
what lies in it. -/
def entitySteps (m : MadeCall) : List (RegistryStep EntityId) :=
  match m.call with
  | .context (.registerEntity e) => [.entered e]
  | .context (.grantAll _ plan) =>
    ifDone m.outcome ((plan.entries.keys.filter Context.isDeletable).map .entered)
  | .deployTestApp _ app _ _ _ => ifDone m.outcome [.entered app.toEntity]
  | .context (.deleteNamespace _ ns) => ifDone m.outcome [.dropped fun e => e.isContainedIn ns]
  | .teardown => [.dropped fun _ => true]
  | _ => []

/-- **A call created a thing**: its request to put the thing there was carried out. -/
def Created (m : MadeCall) (e : EntityId) : Prop :=
  m.call.creates? = some e ∧ ∃ x ∈ m.events, x.IsPut

/-- **A call gives a thing up**: the deletion of its namespace, if it succeeds, and a teardown. -/
def GivesUp (m : MadeCall) (e : EntityId) : Prop :=
  match m.call with
  | .context (.deleteNamespace _ ns) => m.outcome = .ok () ∧ e.namespaceId = some ns
  | .teardown => True
  | _ => False

end MadeCall

/-! ### What a stretch registers -/

namespace ContextState

/-- **Both registries took some steps.** -/
structure Takes (namespaces : List (RegistryStep NamespaceId))
    (entities : List (RegistryStep EntityId)) (s s' : ContextState) : Prop where
  namespaces : s'.namespaces = namespaces.foldl RegistryStep.apply s.namespaces
  entities : s'.entities = entities.foldl RegistryStep.apply s.entities

/-- Both registries are what they were. -/
abbrev SameRegistry : ContextState → ContextState → Prop := Takes [] []

theorem Takes.trans {ns ns' : List (RegistryStep NamespaceId)}
    {es es' : List (RegistryStep EntityId)} {s s₁ s' : ContextState} (h : Takes ns es s s₁)
    (h' : Takes ns' es' s₁ s') : Takes (ns ++ ns') (es ++ es') s s' where
  namespaces := by rw [h'.namespaces, h.namespaces, List.foldl_append]
  entities := by rw [h'.entities, h.entities, List.foldl_append]

instance : IsPreorder ContextState SameRegistry where
  refl _ := ⟨rfl, rfl⟩
  trans _ _ _ h h' := h.trans h'

/-- Nothing was registered or put anywhere. -/
structure Apart (s s' : ContextState) : Prop where
  same : SameRegistry s s'
  within : ExtendsWithin (fun x => ¬ x.IsPut) s.transcript s'.transcript

instance : IsPreorder ContextState Apart where
  refl s := ⟨refl_of SameRegistry s, refl_of _ s.transcript⟩
  trans _ _ _ h h' := ⟨trans_of SameRegistry h.same h'.same, trans_of _ h.within h'.within⟩

end ContextState

open ContextState (Takes SameRegistry Apart)

variable {env : Environment} {α : Type}

namespace ContextAct

theorem sameRegistry_access (env : Environment) (m : AccessAct α) :
    Leads SameRegistry env (liftM m : ContextAct α) := fun _ => ⟨rfl, rfl⟩

theorem sameRegistry_session (env : Environment) (m : Session α) :
    Leads SameRegistry env (liftM m : ContextAct α) := fun _ => ⟨rfl, rfl⟩

/-- What is sent to another end than to put something puts nothing. -/
theorem apart_session {m : Session α} (h : Session.Sends (fun r => r.method ≠ "PUT") env m) :
    Leads Apart env (liftM m : ContextAct α) := by
  intro s
  refine ⟨⟨rfl, rfl⟩, (h s.transcript).mono ?_⟩
  rintro x asks ⟨r, reply, rfl, put, -⟩
  exact asks put

/-- **A program that creates something by one request**: it leaves the registry alone, and if a
request to put something was carried out it succeeds. -/
structure Puts (env : Environment) (m : ContextAct Unit) : Prop where
  same : Leads SameRegistry env m
  grows : ∀ s, s.transcript <:+ (m env s).2.transcript
  carried : ∀ s, (∃ x ∈ (m env s).2.transcript.since s.transcript, x.IsPut) →
    (m env s).1 = .ok ()

theorem puts_putJson (client : RestClient) (path : String) (document : Json) :
    Puts env (liftM (client.putJson path document) : ContextAct Unit) where
  same := sameRegistry_session env _
  grows s := by
    rw [liftM_session_apply, client.putJson_apply]
    cases client.request "PUT" path (.json document) with
    | error f => exact List.suffix_refl _
    | ok r => exact env.suffix_after _ r
  carried s := by
    rw [liftM_session_apply, client.putJson_apply]
    cases client.request "PUT" path (.json document) with
    | error f =>
      rintro ⟨x, mem, -⟩
      change x ∈ s.transcript.since s.transcript at mem
      rw [Transcript.since_self] at mem
      cases mem
    | ok r =>
      rintro ⟨x, mem, r', reply, rfl, -, accepted⟩
      change _ ∈ (env.after s.transcript r).since s.transcript at mem
      rw [env.since_after, List.mem_singleton, Event.exchanged.injEq] at mem
      obtain ⟨rfl, rfl⟩ := mem
      obtain ⟨response, -, ended⟩ := Reply.outcome_of_isAccepted accepted
      show (env.respond s.transcript r').outcome.map _ = _
      rw [ended]
      rfl

/-- Whatever comes before may fail, as long as it puts nothing. -/
theorem Puts.after {m : ContextAct α} {k : α → ContextAct Unit} (apart : Leads Apart env m)
    (h : ∀ a, Puts env (k a)) : Puts env (m >>= k) where
  same := .bind (apart.mono Apart.same) fun a => (h a).same
  grows s := by
    rw [Program.bind_apply]
    have before := (apart s).within
    generalize m env s = out at before ⊢
    obtain ⟨f | a, s₁⟩ := out
    · exact before.grows
    · exact before.grows.trans ((h a).grows s₁)
  carried s := by
    rw [Program.bind_apply]
    have before := (apart s).within
    generalize m env s = out at before ⊢
    obtain ⟨f | a, s₁⟩ := out
    · rintro ⟨x, mem, put⟩
      exact absurd put (before.within x mem)
    · rintro ⟨x, mem, put⟩
      refine (h a).carried s₁ ⟨x, ?_, put⟩
      rw [Transcript.since_trans before.grows ((h a).grows s₁), List.mem_append] at mem
      exact mem.resolve_right fun early => before.within x early put

/-- If what was put is registered next, which does not fail, the whole succeeds. -/
theorem Puts.carried_register {m register : ContextAct Unit} (h : Puts env m)
    (registers : ∀ s, (register env s).1 = .ok ()) (s : ContextState)
    (put : ∃ x ∈ ((m >>= fun _ => register) env s).2.transcript.since s.transcript, x.IsPut) :
    ((m >>= fun _ => register) env s).1 = .ok () := by
  have carried := h.carried s
  rw [Program.bind_apply] at put ⊢
  generalize m env s = out at carried put ⊢
  obtain ⟨f | u, s₁⟩ := out
  · exact carried put
  · exact registers s₁

end ContextAct

namespace Context

open ContextAct

variable (c : Context) (client : RestClient) (app : ApplicationId) (artifact : String)
  (config : Option Json) (owner : Option String)

/-- The artifact of a test application, sent to the platform if it is at hand. -/
def testArtifact : ContextAct ArtifactSummary :=
  let version := c.settings.artifactVersion
  match c.settings.artifactDirectory with
  | some directory => do
    let content ← Session.fileContent (fileIn directory (artifact ++ "-" ++ version ++ ".jar"))
    client.addArtifact (app.ns.artifact artifact version) [] content
    return .user artifact version
  | none => return .system artifact version

/-- A test application, put where it belongs. -/
def putTestApp : ContextAct Unit := do
  let summary ← c.testArtifact client app artifact
  client.deployApp app id ⟨summary, config, owner⟩

theorem deployTestApp_eq :
    c.deployTestApp client app artifact config owner =
      (do c.putTestApp client app artifact config owner; registerEntity app.toEntity) := by
  unfold deployTestApp putTestApp testArtifact
  cases c.settings.artifactDirectory <;> simp only [bind_assoc, pure_bind]

/-- **To deploy is to put an application**: the artifact is posted. -/
theorem puts_putTestApp (env : Environment) :
    Puts env (c.putTestApp client app artifact config owner) := by
  have posted (a : ArtifactId) (content : List UInt8) :
      Session.Sends (fun r => r.method ≠ "PUT") env (client.addArtifact a [] content) :=
    .bind (Session.leads_ofOutcome _) fun _ => .bind (Session.leads_ofOutcome _) fun _ =>
      .bind (client.sends_execute (fun _ _ => (by decide : "POST" ≠ "PUT")) _) fun _ => .pure _
  refine .after ?_ fun summary => puts_putJson client _ _
  unfold testArtifact
  cases c.settings.artifactDirectory with
  | none => exact .pure _
  | some directory =>
    exact .bind (apart_session (Session.sends_fileContent _)) fun content =>
      .bind (apart_session (posted _ content)) fun _ => .pure _

/-! ### Calls, one by one -/

/-- **What is done in the end, and only then**: if the last steps do not fail, they are taken
exactly if the whole succeeds. -/
theorem takes_ifDone {ns : List (RegistryStep NamespaceId)} {es : List (RegistryStep EntityId)}
    {m : ContextAct α} {k : α → ContextAct Unit} (same : Leads SameRegistry env m)
    (s : ContextState) (last : ∀ a, (m env s).1 = .ok a → ∀ s₁,
      (k a env s₁).1 = .ok () ∧ Takes ns es s₁ (k a env s₁).2) :
    Takes (MadeCall.ifDone ((m >>= k) env s).1 ns) (MadeCall.ifDone ((m >>= k) env s).1 es) s
      ((m >>= k) env s).2 := by
  rw [Program.bind_apply]
  have before := same s
  generalize m env s = out at before last ⊢
  obtain ⟨f | a, s₁⟩ := out
  · exact before
  · obtain ⟨ended, after⟩ := last a rfl s₁
    rw [ended]
    exact before.trans after

theorem takes_registerNamespace (env : Environment) (ns : NamespaceId) :
    Leads (Takes [.entered ns] []) env (registerNamespace ns) := by
  intro s
  show Takes _ _ s (if s.namespaces.contains ns then s else _)
  split
  · rename_i known
    exact ⟨(if_pos known).symm, rfl⟩
  · rename_i fresh
    exact ⟨(if_neg fresh).symm, rfl⟩

theorem takes_registerEntity (env : Environment) (e : EntityId) :
    Leads (Takes [] [.entered e]) env (registerEntity e) := by
  intro s
  show Takes _ _ s (if s.entities.contains e then s else _)
  split
  · rename_i known
    exact ⟨rfl, (if_pos known).symm⟩
  · rename_i fresh
    exact ⟨rfl, (if_neg fresh).symm⟩

theorem takes_registerEntities (env : Environment) (es : List EntityId) :
    Leads (Takes [] (es.map .entered)) env (registerEntities es) := by
  induction es with
  | nil => exact fun _ => ⟨rfl, rfl⟩
  | cons e rest ih =>
    intro s
    have first : Takes [] [.entered e] s (registerEntity e env s).2 := takes_registerEntity env e s
    exact first.trans (ih _)

/-- A teardown leaves nothing registered, whatever becomes of it. -/
theorem takes_teardown (env : Environment) :
    Leads (Takes [.dropped fun _ => true] [.dropped fun _ => true]) env c.teardown := by
  intro s
  have emptied {α : Type} (l : List α) : [] = l.filter fun _ => !true := by
    simp
  have : IsPreorder AccessState fun _ _ => True :=
    { refl := fun _ => trivial, trans := fun _ _ _ _ _ => trivial }
  have anything {α : Type} (m : AccessAct α) : Leads (fun _ _ => True) env m := fun _ => trivial
  obtain ⟨first, s₁, entities, -⟩ := c.leads_cleanupEntities (fun e => anything _)
    s.entities.reverse none s.access
  obtain ⟨first', s₂, namespaces, -⟩ := c.leads_cleanupNamespaces (fun ns => anything _)
    (fun _ _ _ _ => trivial) s.namespaces.reverse first s₁
  unfold teardown
  simp only [Program.bind_apply, ContextAct.state_apply, ContextAct.update_apply,
    ContextAct.liftM_apply, entities, namespaces, AccessAct.attempt_apply]
  cases AccessModel.outcomeOf (AccessModel.firstFailure first' (c.access.teardown env s₂).1) <;>
    exact ⟨emptied s.namespaces, emptied s.entities⟩

end Context

namespace RegistryCall

open Context ContextAct

variable (c : Context)

/-- **What each call does to both registries**, by its outcome. -/
theorem takes_run (call : RegistryCall) (s : ContextState) :
    Takes (call.madeIn c env s).namespaceSteps (call.madeIn c env s).entitySteps s
      (call.run c env s).2 := by
  unfold MadeCall.namespaceSteps MadeCall.entitySteps
  simp only [madeIn]
  cases call with
  | teardown => exact c.takes_teardown env s
  | deployTestApp client app artifact config owner =>
    have put := (c.puts_putTestApp client app artifact config owner env).same
    have whole := takes_ifDone put s fun _ _ s₁ =>
      ⟨rfl, takes_registerEntity env app.toEntity s₁⟩
    rw [MadeCall.ifDone_nil, ← c.deployTestApp_eq] at whole
    exact whole
  | context call =>
    cases call with
    | access call => exact sameRegistry_access env (call.run c.access) s
    | registerNamespace ns => exact takes_registerNamespace env ns s
    | registerEntity e => exact takes_registerEntity env e s
    | createNamespace client ns =>
      have put := sameRegistry_session env (client.createNamespace ns.details)
      have whole := takes_ifDone put s fun _ _ s₁ => ⟨rfl, takes_registerNamespace env ns.id s₁⟩
      rw [MadeCall.ifDone_nil] at whole
      exact whole
    | deleteNamespace client ns =>
      simp only [run, ContextCall.run]
      rw [deleteNamespace_apply]
      cases (Change.delete ns).requestOf client with
      | error f => exact refl_of SameRegistry s
      | ok r =>
        simp only
        cases (env.respond s.access.transcript r).outcome with
        | error f => exact ⟨rfl, rfl⟩
        | ok response => exact ⟨rfl, rfl⟩
    | grantAll p plan =>
      have granted := sameRegistry_access env (c.access.grantAll p plan)
      have registers (touched : List EntityId)
          (ended : ((liftM (c.access.grantAll p plan) : ContextAct _) env s).1 = .ok touched) :
          ∀ s₁, (registerEntities (touched.filter isDeletable) env s₁).1 = .ok () ∧
            Takes [] ((plan.entries.keys.filter isDeletable).map .entered) s₁
              (registerEntities (touched.filter isDeletable) env s₁).2 := by
        intro s₁
        obtain rfl := c.eq_keys_of_grantAll p plan ended
        exact ⟨(registerEntities_apply _ env s₁).1, takes_registerEntities env _ s₁⟩
      have whole := takes_ifDone granted s registers
      rw [MadeCall.ifDone_nil] at whole
      exact whole

variable {c}

/-- **A call that was told that it created a thing** enters that, and nothing else. -/
theorem entered_of_created {call : RegistryCall} {s : ContextState} {e : EntityId}
    (created : (call.madeIn c env s).Created e) :
    (∃ ns : NamespaceId, e = ns.toEntity ∧ (call.madeIn c env s).namespaceSteps = [.entered ns]) ∨
      (∀ s' : ContextState, s'.Registers e ↔ e ∈ s'.entities) ∧
        (call.madeIn c env s).entitySteps = [.entered e] := by
  obtain ⟨creates, put⟩ := created
  unfold MadeCall.namespaceSteps MadeCall.entitySteps
  simp only [madeIn] at creates put ⊢
  cases call with
  | teardown => cases creates
  | deployTestApp client app artifact config owner =>
    cases creates
    have carried : (c.deployTestApp client app artifact config owner env s).1 = .ok () := by
      have puts := c.puts_putTestApp client app artifact config owner env
      have registers (s : ContextState) : (registerEntity app.toEntity env s).1 = .ok () := rfl
      simp only [run, c.deployTestApp_eq] at put ⊢
      exact puts.carried_register registers s put
    refine .inr ⟨fun s' => Iff.rfl, ?_⟩
    simp only [run, carried, MadeCall.ifDone_ok]
  | context call =>
    cases call with
    | createNamespace client ns =>
      cases creates
      have carried : (createNamespace client ns env s).1 = .ok () := by
        simp only [run, ContextCall.run, createNamespace] at put ⊢
        refine ContextAct.Puts.carried_register ?_ ?_ s put
        · exact puts_putJson client _ _
        · exact fun _ => rfl
      refine .inl ⟨ns.id, rfl, ?_⟩
      simp only [run, ContextCall.run, carried, MadeCall.ifDone_ok]
    | _ => cases creates

/-! ### Runs -/

/-- Every call of a run was made in some state. -/
theorem exists_of_mem_made {calls : List RegistryCall} {s : ContextState} {m : MadeCall}
    (mem : m ∈ made c env calls s) :
    ∃ (call : RegistryCall) (s' : ContextState), m = call.madeIn c env s' := by
  induction calls generalizing s with
  | nil => cases mem
  | cons call rest ih =>
    rcases List.mem_cons.1 mem with rfl | mem
    · exact ⟨call, s, rfl⟩
    · exact ih mem

/-- **Both registries take the steps of all calls**, one call after the other. -/
theorem takes_after (calls : List RegistryCall) (s : ContextState) :
    Takes ((made c env calls s).flatMap MadeCall.namespaceSteps)
      ((made c env calls s).flatMap MadeCall.entitySteps) s (after c env calls s) := by
  induction calls generalizing s with
  | nil => exact refl_of SameRegistry s
  | cons call rest ih => exact (takes_run c call s).trans (ih (call.run c env s).2)

end RegistryCall

namespace MadeCall

variable {m : MadeCall}

/-- Only its deletion and a teardown drop a namespace. -/
theorem givesUp_of_namespaceSteps {step : RegistryStep NamespaceId} {ns : NamespaceId}
    (mem : step ∈ m.namespaceSteps) (drops : step.Drops ns) : m.GivesUp ns.toEntity := by
  obtain ⟨call, outcome, events⟩ := m
  unfold namespaceSteps at mem
  unfold GivesUp
  simp only at mem ⊢
  split at mem <;> simp only [mem_ifDone, List.mem_singleton, List.not_mem_nil] at mem
  case h_1 =>
    subst mem
    cases drops
  case h_2 =>
    obtain ⟨-, rfl⟩ := mem
    cases drops
  case h_3 =>
    obtain ⟨done, rfl⟩ := mem
    obtain rfl : ns = _ := LawfulBEq.eq_of_beq drops
    exact ⟨done, rfl⟩
  case h_4 => trivial

/-- Only the deletion of its namespace and a teardown drop an entity. -/
theorem givesUp_of_entitySteps {step : RegistryStep EntityId} {e : EntityId}
    (mem : step ∈ m.entitySteps) (drops : step.Drops e) : m.GivesUp e := by
  obtain ⟨call, outcome, events⟩ := m
  unfold entitySteps at mem
  unfold GivesUp
  simp only at mem ⊢
  split at mem <;> simp only [mem_ifDone, List.mem_singleton, List.not_mem_nil] at mem
  case h_1 =>
    subst mem
    cases drops
  case h_2 =>
    obtain ⟨e', -, rfl⟩ := List.mem_map.1 mem.2
    cases drops
  case h_3 =>
    obtain ⟨-, rfl⟩ := mem
    cases drops
  case h_4 =>
    obtain ⟨done, rfl⟩ := mem
    exact ⟨done, EntityId.namespaceId_eq_some_iff.2 (.inr drops)⟩
  case h_5 => trivial

end MadeCall

/-- What a call entered is registered if no later call drops it. -/
theorem registered_flatMap {α : Type} {steps : MadeCall → List (RegistryStep α)} {x : α}
    {m : MadeCall} {later : List MadeCall} (done : List MadeCall) (entered : steps m = [.entered x])
    (kept : ∀ m' ∈ later, ∀ step ∈ steps m', ¬ step.Drops x) :
    Registered ((done ++ m :: later).flatMap steps) x := by
  refine ⟨done.flatMap steps, later.flatMap steps, ?_, ?_⟩
  · rw [List.flatMap_append, List.flatMap_cons, entered]
    rfl
  · intro step mem
    obtain ⟨m', made, mem⟩ := List.mem_flatMap.1 mem
    exact kept m' made step mem

/-- **The registry of a context is in order after every run**: each registry lists what was entered
and not dropped since, once, in the order of first entries.  What a call was told that it created
stays registered until its namespace is deleted or everything is torn down. -/
theorem Context.registry_in_order (c : Context) (env : Environment) (t : Transcript)
    (calls : List RegistryCall) :
    let made := RegistryCall.made c env calls (.start t)
    let s := RegistryCall.after c env calls (.start t)
    InOrder (made.flatMap MadeCall.namespaceSteps) s.namespaces ∧
      InOrder (made.flatMap MadeCall.entitySteps) s.entities ∧
      ∀ done m later e, made = done ++ m :: later → m.Created e →
        (∀ m' ∈ later, ¬ m'.GivesUp e) → s.Registers e := by
  intro made s
  have takes : Takes _ _ (.start t) s := RegistryCall.takes_after calls (.start t)
  have spaces : InOrder (made.flatMap MadeCall.namespaceSteps) s.namespaces := by
    rw [takes.namespaces]
    exact inOrder_foldl _
  have others : InOrder (made.flatMap MadeCall.entitySteps) s.entities := by
    rw [takes.entities]
    exact inOrder_foldl _
  refine ⟨spaces, others, ?_⟩
  intro done m later e split created kept
  have mem : m ∈ made := by
    rw [split]
    exact List.mem_append_right _ List.mem_cons_self
  obtain ⟨call, s', rfl⟩ := RegistryCall.exists_of_mem_made mem
  rcases RegistryCall.entered_of_created created with ⟨ns, rfl, entered⟩ | ⟨stands, entered⟩
  · refine spaces.mem_iff.2 ?_
    rw [split]
    exact registered_flatMap done entered fun m' mem step among drops =>
      kept m' mem (MadeCall.givesUp_of_namespaceSteps among drops)
  · rw [stands, others.mem_iff, split]
    exact registered_flatMap done entered fun m' mem step among drops =>
      kept m' mem (MadeCall.givesUp_of_entitySteps among drops)

/-- A namespace that could not be deleted stays registered with what lies in it, and what was
registered again keeps its place. -/
example :
    let env : Environment :=
      .replying fun _ r => .answered ⟨if r.method = "PUT" then 200 else 403, ""⟩
    let s := RegistryCall.after .local env
      [.context (.createNamespace .local (.plain "a")),
        .context (.registerEntity (.stream "a" "s")),
        .deployTestApp .local ⟨⟨"a"⟩, "app"⟩ "jar" none none,
        .context (.registerEntity (.stream "a" "s")), .context (.deleteNamespace .local ⟨"a"⟩)]
      (.start [])
    s.namespaces = [⟨"a"⟩] ∧ s.entities = [.stream "a" "s", .application "a" "app"] := by
  decide +kernel

end AccessHarness
