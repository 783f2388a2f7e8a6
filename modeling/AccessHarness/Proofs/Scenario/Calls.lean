import AccessHarness.Proofs.Access.Calls

/-!
# Calls in a context

What a scenario does to privileges: the calls of the access model, and those of the context,
which delete namespaces and keep the registry.

* `ContextCall` — the calls, each with its operation.
* `ContextCall.covered_run`, `ContextCall.inStep_run` — what every call keeps.
* `Context.ledger_sound_iff` — exactly when the ledger claims nothing that the platform does not
  hold, after every call of a run.

### What is load-bearing

One kind of call can leave the ledger outdated, and only in one way (`ContextCall.CutShort`).  All
others are related by `InStep`, which needs no assumption about the state they start in; the run
then follows from an empty ledger call by call.
-/

namespace AccessHarness

open Program (Leads)

/-- **A call that changes privileges or the registry of a context.** -/
inductive ContextCall where
  | access (call : AccessCall)
  /-- Grant a plan, and register what it names. -/
  | grantAll (p : Principal) (plan : PrivilegePlan)
  | createNamespace (client : RestClient) (ns : TestNamespace)
  | deleteNamespace (client : RestClient) (ns : NamespaceId)
  | registerNamespace (ns : NamespaceId)
  | registerEntity (e : EntityId)

namespace ContextCall

/-- The operation of a call. -/
def run (c : Context) : ContextCall → ContextAct Unit
  | .access call => liftM (call.run c.access)
  | .grantAll p plan => c.grantAll p plan
  | .createNamespace client ns => Context.createNamespace client ns
  | .deleteNamespace client ns => Context.deleteNamespace client ns
  | .registerNamespace ns => Context.registerNamespace ns
  | .registerEntity e => Context.registerEntity e

/-- Whether it is a call of the access model that was cut short. -/
def CutShort (call : ContextCall) (s s' : ContextState) : Prop :=
  ∃ made, call = .access made ∧ made.CutShort s.access s'.access

end ContextCall

/-- The state after some calls, each made whatever came of those before. -/
def Context.after (c : Context) (env : Environment) (calls : List ContextCall)
    (s : ContextState) : ContextState :=
  Program.inTurn env (calls.map fun call => call.run c) s

/-- **The ledger claims nothing that the platform does not hold.** -/
def AccessState.Sound (held : Transcript → Store) (s : AccessState) : Prop :=
  ∀ p e a, s.ledger.holds p e a = true → ⟨p, e, a⟩ ∈ held s.transcript

theorem AccessState.sound_iff {held : Transcript → Store} {s : AccessState} :
    s.Sound held ↔ s.outdated held = ∅ := by
  rw [AccessState.outdated, Set.sdiff_eq_empty]
  constructor
  · intro sound x claimed
    exact sound x.principal x.entity x.action claimed
  · intro sub p e a claimed
    exact sub (show ⟨p, e, a⟩ ∈ s.ledger.entitlements from claimed)

section

variable {env : Environment} {held : Transcript → Store} (F : Faithful env held) (c : Context)

/-- What leaves the access model alone keeps it in step. -/
private theorem inStep_update {a : RestClient} (f : ContextState → ContextState)
    (same : ∀ s, (f s).access = s.access) :
    Leads (InvImage (InStep held a) ContextState.access) env (ContextAct.update f) := by
  intro s
  show InStep held a s.access (f s).access
  rw [same]
  exact refl_of _ s.access

theorem Context.leads_registerNamespace {a : RestClient} (ns : NamespaceId) :
    Leads (InvImage (InStep held a) ContextState.access) env (Context.registerNamespace ns) := by
  refine inStep_update _ ?_
  intro s
  split <;> rfl

theorem Context.leads_registerEntity {a : RestClient} (e : EntityId) :
    Leads (InvImage (InStep held a) ContextState.access) env (Context.registerEntity e) := by
  refine inStep_update _ ?_
  intro s
  split <;> rfl

theorem Context.leads_registerEntities {a : RestClient} (es : List EntityId) :
    Leads (InvImage (InStep held a) ContextState.access) env (Context.registerEntities es) := by
  induction es with
  | nil => exact .pure ()
  | cons e rest ih => exact .bind (Context.leads_registerEntity e) fun _ => ih

include F

theorem Context.leads_grantAll (p : Principal) (plan : PrivilegePlan) :
    Leads (InvImage (InStep held c.access.admin) ContextState.access) env (c.grantAll p plan) := by
  unfold Context.grantAll
  refine .bind (ContextAct.leads_liftM (AccessModel.leads_grantAll F c.access p plan)) ?_
  intro touched
  exact Context.leads_registerEntities _

theorem Context.leads_createNamespace {a : RestClient} (client : RestClient)
    (ns : TestNamespace) :
    Leads (InvImage (InStep held a) ContextState.access) env
      (Context.createNamespace client ns) := by
  unfold Context.createNamespace
  refine .bind ?_ fun _ => Context.leads_registerNamespace ns.id
  intro s
  rw [ContextAct.liftM_session_apply]
  have put : Untouched held s.access.transcript
      (client.createNamespace ns.details env s.access.transcript).2 :=
    F.leads_putJson client _ _ s.access.transcript
  generalize client.createNamespace ns.details env s.access.transcript = out at put ⊢
  exact .of_same put.grows put.same rfl

/-- A namespace that is deleted is voided on both sides. -/
theorem Context.leads_deleteNamespace {a : RestClient} (client : RestClient) (ns : NamespaceId) :
    Leads (InvImage (InStep held a) ContextState.access) env
      (Context.deleteNamespace client ns) := by
  intro s
  unfold Context.deleteNamespace
  rw [Program.bind_apply, ContextAct.liftM_session_apply]
  have asked := F.asked client (.delete ns) s.access.transcript
  change Asked env held client (.delete ns) s.access.transcript
    (client.deleteNamespace ns env s.access.transcript) at asked
  generalize client.deleteNamespace ns env s.access.transcript = out at asked ⊢
  cases asked with
  | unsent f mute => exact refl_of _ s.access
  | refused f r sends asked refusal same =>
    exact .of_same (env.suffix_after _ r) same rfl
  | accepted r sends asked acceptance done =>
    have recorded := s.access.ledger.entitlements_recordNamespaceDeleted ns
    refine .of_change (.delete ns) (env.suffix_after _ r) done recorded ?_
    intro _
    exact recorded.le.trans Set.sdiff_subset

/-- **Every call keeps ledger and platform in step**, unless it is cut short. -/
theorem ContextCall.inStep_run {call : ContextCall} {s : ContextState}
    (whole : ¬ call.CutShort s (call.run c env s).2) :
    InStep held c.access.admin s.access (call.run c env s).2.access := by
  cases call with
  | grantAll p plan =>
    simp only [run]
    exact Context.leads_grantAll F c p plan s
  | createNamespace client ns =>
    simp only [run]
    exact Context.leads_createNamespace F client ns s
  | deleteNamespace client ns =>
    simp only [run]
    exact Context.leads_deleteNamespace F client ns s
  | registerNamespace ns =>
    simp only [run]
    exact Context.leads_registerNamespace ns s
  | registerEntity e =>
    simp only [run]
    exact Context.leads_registerEntity e s
  | access call =>
    simp only [run]
    rw [ContextAct.liftM_apply]
    refine AccessCall.inStep_run F c.access ?_
    intro cut
    exact whole ⟨call, rfl, cut⟩

/-- **No call leaves anything unrecorded.** -/
theorem ContextCall.covered_run (call : ContextCall) :
    Leads (InvImage (Covered held c.access.admin) ContextState.access) env (call.run c) := by
  intro s
  by_cases cut : call.CutShort s (call.run c env s).2
  · obtain ⟨made, rfl, -⟩ := cut
    exact AccessCall.covered_run F c.access made s.access
  · exact (ContextCall.inStep_run F c cut).toCovered

/-- A call that was cut short leaves the ledger outdated. -/
theorem ContextCall.exists_outdated_of_cutShort {call : ContextCall} {s : ContextState}
    (cut : call.CutShort s (call.run c env s).2) :
    ((call.run c env s).2.access.outdated held).Nonempty := by
  obtain ⟨made, rfl, cut⟩ := cut
  exact AccessCall.exists_outdated_of_cutShort F c.access cut

/-- **Exactly when the ledger is sound throughout a run**: as long as nothing was cut short
that revokes everything from a principal. -/
theorem Context.ledger_sound_iff (t : Transcript) (calls : List ContextCall) :
    (∀ done, done <+: calls → (c.after env done (.start t)).access.Sound held) ↔
      ∀ done call, done ++ [call] <+: calls → ¬ call.CutShort
        (c.after env done (.start t)) (c.after env (done ++ [call]) (.start t)) := by
  have next (done : List ContextCall) (call : ContextCall) :
      c.after env (done ++ [call]) (.start t) =
        (call.run c env (c.after env done (.start t))).2 := by
    unfold Context.after
    rw [List.map_append, Program.inTurn_append]
    rfl
  constructor
  · intro sound done call made cut
    rw [next] at cut
    obtain ⟨x, outdated⟩ := ContextCall.exists_outdated_of_cutShort F c cut
    have nothing := AccessState.sound_iff.1 (sound _ made)
    rw [next] at nothing
    rw [nothing] at outdated
    exact outdated
  · intro whole done made
    induction done using List.reverseRecOn with
    | nil =>
      intro p e a claimed
      cases claimed
    | append_singleton done call ih =>
      have earlier := ih ((List.prefix_append done [call]).trans made)
      have uncut := whole done call made
      rw [next] at uncut ⊢
      have step := ContextCall.inStep_run F c uncut
      rw [AccessState.sound_iff] at earlier ⊢
      exact Set.subset_eq_empty step.outdated earlier

end

/-- A context on the same machine that refreshes nothing. -/
def Context.local : Context where
  settings :=
    { endpoint := ⟨RestClient.local.base, RestClient.local.base, Duration.ofSeconds 60⟩
      accessToken := none
      adminUser := "admin"
      passwordSuffix := ""
      testNamespace := ⟨"test"⟩
      namespacePrincipal := none
      namespaceKeytab := none
      invalidatePath := ""
      cachePolicy := .manual
      marketUrl := none
      artifactVersion := "1.0.0"
      artifactDirectory := none }
  admin := .local
  access := .local
  suffix := ""

/-- The context of a run with a suffix of its own. -/
def Context.localRun : Context := { Context.local with suffix := "1" }

/-- Whoever has nothing recorded can lose everything without harm. -/
theorem Context.ledger_sound_of_nothing_recorded :
    let P := StorePlatform.accepting {⟨.user "alice", .space "a", .read⟩}
    let calls := [ContextCall.access (.revoke (.user "alice") none none),
      .access (.grant (.user "bob") (.space "a") [.read, .admin]),
      .access (.revoke (.user "bob") (some (.space "a")) (some [.read])),
      .deleteNamespace .local ⟨"a"⟩]
    ∀ done, done <+: calls →
      (Context.local.after P.environment done (.start [])).access.Sound P.held := by
  intro P calls
  refine (Context.ledger_sound_iff P.faithful .local [] calls).2 ?_
  rintro done call made ⟨access, rfl, p, actions, rfl, e, ⟨a, claimed⟩, -⟩
  cases done with
  | nil => cases claimed
  | cons first done =>
    -- only the first call revokes everything
    have mem : ContextCall.access (.revoke p none actions) ∈ calls.tail := by
      refine List.IsPrefix.mem ?_ (List.cons_prefix_cons.1 made).2
      exact List.mem_append_right done List.mem_cons_self
    simp [calls] at mem

/-! ### A series that is cut short -/

/-- What everybody may read, as a listing. -/
def StorePlatform.page : String :=
  "[\x7b\"entity\":\x7b\"entity\":\"NAMESPACE\",\"namespace\":\"a\"\x7d,\"action\":\"READ\"\x7d," ++
  "\x7b\"entity\":\x7b\"entity\":\"NAMESPACE\",\"namespace\":\"b\"\x7d,\"action\":\"READ\"\x7d]"

/-- A platform where everybody may read two namespaces, and where bob cannot be kept from
reading the second. -/
def StorePlatform.stubborn : StorePlatform where
  before := {x | x.action = .read ∧ (x.entity = .space "a" ∨ x.entity = .space "b")}
  refuses _ r := (Change.revoke ⟨.space "b", some (.user "bob"), none⟩).AskedBy r
  text _ r := if r.method = "GET" then page else ""

/-- The listing that the page stands for. -/
def StorePlatform.twoNamespaces : OrderedSet Privilege :=
  .ofMembers [⟨.space "a", .read⟩, ⟨.space "b", .read⟩]

section

open StorePlatform

private theorem decodeBody_page : decodeBody Privilege.setDecoder page = .ok twoNamespaces := by
  have read : Json.decodeDocument (Json.Decoder.list Privilege.decoder) page.toList =
      some [⟨.space "a", .read⟩, ⟨.space "b", .read⟩] := by
    decide +kernel
  have written : Text.isBlank page = false := by decide +kernel
  have whole : Json.decodeDocument Privilege.setDecoder page.toList =
      (Json.decodeDocument (Json.Decoder.list Privilege.decoder) page.toList).map .ofMembers := by
    unfold Json.decodeDocument
    cases Json.read? page.toList <;> rfl
  unfold decodeBody
  simp only [written, Bool.false_eq_true, if_false, whole, read, Option.map_some]
  rfl

theorem stubborn_accepts (ch : Change) (post : ch.method = "POST")
    (other : ch ≠ .revoke ⟨.space "b", some (.user "bob"), none⟩) (t : Transcript) :
    ∃ t', RestClient.local.ask ch stubborn.environment t = (.ok (), t') ∧
      stubborn.held t' = ch.apply (stubborn.held t) := by
  refine stubborn.exists_ask_eq_ok t ch RestClient.canSend_local post ?_ ?_
  · intro r asked asked'
    exact other (Change.eq_of_askedBy asked asked' ((Change.method_eq_of_askedBy asked).trans post))
  · intro r posted
    refine if_neg ?_
    rw [posted]
    decide

theorem stubborn_lists (p : Principal) {t : Transcript}
    (same : stubborn.held t = stubborn.before) :
    ∃ t', AccessModel.local.privileges p stubborn.environment t = (.ok twoNamespaces, t') ∧
      stubborn.held t' = stubborn.held t := by
  refine stubborn.exists_privileges_eq_ok t p RestClient.canSend_local ?_ ?_ ?_
  · intro r get asked
    have post := Change.method_eq_of_askedBy asked
    rw [get] at post
    exact absurd post (by decide)
  · intro r get
    have answer : stubborn.text t r = page := if_pos get
    rw [answer, decodeBody_page]
  · intro p' e a
    rw [same, twoNamespaces, OrderedSet.contains_ofMembers]
    show _ ↔ a = .read ∧ (e = .space "a" ∨ e = .space "b")
    simp
    tauto

theorem grant_local {env : Environment} {t t' : Transcript} {p : Principal}
    {e : EntityId} {actions : List Action}
    (granted : RestClient.local.ask (.grant ⟨e, p, .ofList actions⟩) env t = (.ok (), t'))
    (l : Ledger) :
    AccessModel.local.grant p e actions env ⟨t, l⟩ =
      (.ok (), ⟨t', l.recordGrant p e (.ofList actions)⟩) := by
  change AccessModel.local.admin.grantPrivileges _ env t = _ at granted
  unfold AccessModel.grant AccessModel.issueGrant
  simp only [Program.bind_apply, AccessAct.liftM_apply, AccessAct.record_apply, granted]
  rfl

private theorem revoke_none_local {env : Environment} {t t₁ t₂ : Transcript} {p : Principal}
    {listing : OrderedSet Privilege} {f : Fault}
    (listed : AccessModel.local.privileges p env t = (.ok listing, t₁))
    (cut : AccessModel.local.revokeEntities p (AccessModel.entitiesOf listing) env t₁ =
      (.error f, t₂)) (l : Ledger) :
    (AccessModel.local.revoke p none none env ⟨t, l⟩).2 = ⟨t₂, l⟩ := by
  unfold AccessModel.revoke
  simp only [Program.bind_apply, AccessAct.liftM_apply, listed, cut]

end

/-- **The ledger can claim what is gone**: bob was granted what everybody has, everything is
revoked from him, and that is cut short after the first of two revocations. -/
theorem Context.ledger_unsound_of_cut_short :
    let P := StorePlatform.stubborn
    let s := Context.local.after P.environment
      [.access (.grant (.user "bob") (.space "a") [.read]),
        .access (.revoke (.user "bob") none none)] (.start [])
    Faithful P.environment P.held ∧
      s.access.ledger.holds (.user "bob") (.space "a") .read = true ∧
      ⟨.user "bob", .space "a", .read⟩ ∉ P.held s.access.transcript := by
  intro P s
  refine ⟨P.faithful, ?_⟩
  obtain ⟨t₁, granted, held₁⟩ := stubborn_accepts
    (.grant ⟨.space "a", .user "bob", .ofList [.read]⟩) rfl (by decide) []
  -- the grant gives what was held before
  have same : P.held t₁ = P.before := by
    refine held₁.trans (Set.union_eq_left.2 ?_)
    rintro x ⟨-, entity, action⟩
    refine ⟨?_, .inl entity⟩
    simpa using action
  obtain ⟨t₂, listed, -⟩ := stubborn_lists (.user "bob") same
  obtain ⟨t₃, revoked, held₃⟩ := stubborn_accepts
    (.revoke ⟨.space "a", some (.user "bob"), none⟩) rfl (by decide) t₂
  obtain ⟨f, t₄, refused, held₄⟩ := P.exists_ask_eq_error t₃
    (.revoke ⟨.space "b", some (.user "bob"), none⟩) RestClient.canSend_local
    fun _ asked => asked
  have entities : AccessModel.entitiesOf StorePlatform.twoNamespaces =
      [.space "a", .space "b"] := by
    decide +kernel
  have cut : AccessModel.local.revokeEntities (.user "bob")
      (AccessModel.entitiesOf StorePlatform.twoNamespaces) P.environment t₂ = (.error f, t₄) := by
    change AccessModel.local.admin.ask _ P.environment t₂ = _ at revoked
    change AccessModel.local.admin.ask _ P.environment t₃ = _ at refused
    rw [entities, AccessModel.revokeEntities_cons, Program.bind_apply, revoked]
    simp only
    rw [AccessModel.revokeEntities_cons, Program.bind_apply, refused]
  have reached : s.access = ⟨t₄, Ledger.empty.recordGrant (.user "bob") (.space "a")
      (.ofList [.read])⟩ := by
    show (AccessModel.local.revoke (.user "bob") none none P.environment
      (AccessModel.local.grant (.user "bob") (.space "a") [.read] P.environment
        ⟨[], Ledger.empty⟩).2).2 = _
    rw [grant_local granted, revoke_none_local listed cut]
  rw [reached]
  have claimed : (Ledger.empty.recordGrant (.user "bob") (.space "a")
      (.ofList [.read])).holds (.user "bob") (.space "a") .read = true := by
    decide +kernel
  refine ⟨claimed, ?_⟩
  rw [held₄, held₃]
  exact fun left => left.2 (by simp [RevokeRequest.mem_covers])

end AccessHarness
