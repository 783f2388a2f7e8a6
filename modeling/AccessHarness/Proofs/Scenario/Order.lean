import AccessHarness.Proofs.Access.Asking
import AccessHarness.Proofs.Scenario.Cleanup

/-!
# What a teardown does, in order

A teardown is three series and a refresh.  Each thing has its turn once, the last registered
first; no turn depends on what came of the turns before, except through what it finds in the
ledger.

* `OneByOne` — a series of steps: where it leads, and what came of each step.
* `Context.Turn`, `Context.EntityTurn`, `Context.NamespaceTurn`, `AccessModel.RevokeTurn` — the
  steps of the three series, with everything that can come of them; the refresh is an
  `AccessModel.RefreshTurn`.
* `Context.Due` — the state in which the turn of a registered thing begins.
* `Context.teardown_in_order` — the whole history of a teardown, and its outcome.

### What is load-bearing

**The series are run by the states, not by the outcomes.**  The first failure is carried along and
looked at only in the end, so it can be left out of the series altogether: it is what
`List.findSome?` finds in the list of all outcomes (`AccessModel.foldl_firstFailure`).

**A deletion is preceded by its turn.**  What is sent apart from the deletions are listings,
grants, revocations and refreshes.  So whatever deletes something stands at the end of a turn, and
the state in which that turn began is one that the series came to (`Context.Licensed`).
-/

namespace AccessHarness

open Program (Leads)
open Transcript (ExtendsWithin)

/-! ### Series -/

/-- **Steps taken one after the other**, one for each member of a list; each yields an outcome,
and the next one is taken whatever that is. -/
inductive OneByOne {α σ : Type} (step : α → σ → Outcome Unit → σ → Prop) :
    List α → σ → List (Outcome Unit) → σ → Prop
  | nil (s : σ) : OneByOne step [] s [] s
  | cons {x : α} {xs : List α} {s s₁ s₂ : σ} {o : Outcome Unit} {os : List (Outcome Unit)}
      (first : step x s o s₁) (rest : OneByOne step xs s₁ os s₂) :
      OneByOne step (x :: xs) s (o :: os) s₂

namespace OneByOne

variable {α σ : Type} {step : α → σ → Outcome Unit → σ → Prop}

/-- One more step at the end. -/
theorem concat {xs : List α} {x : α} {s s₁ s₂ : σ} {os : List (Outcome Unit)} {o : Outcome Unit}
    (h : OneByOne step xs s os s₁) (last : step x s₁ o s₂) :
    OneByOne step (xs ++ [x]) s (os ++ [o]) s₂ := by
  induction h with
  | nil s => exact .cons last (.nil _)
  | cons first _ ih => exact .cons first (ih last)

/-- What each step leads along, a series does, if every step may rely on the steps before. -/
theorem rel_of_steps {R : σ → σ → Prop} [IsPreorder σ R] {xs before : List α} {s₀ s s' : σ}
    {done os : List (Outcome Unit)} (h : OneByOne step xs s os s')
    (prior : OneByOne step before s₀ done s)
    (steps : ∀ {front x back done s o s₁}, before ++ xs = front ++ x :: back →
      OneByOne step front s₀ done s → step x s o s₁ → R s s₁) : R s s' := by
  induction h generalizing before done with
  | nil s => exact refl_of R s
  | cons first _ ih =>
    refine trans_of R (steps rfl prior first) (ih (prior.concat first) ?_)
    intro front y back done s o s₁ split
    rw [List.append_assoc] at split
    exact steps split

end OneByOne

/-! ### The first failure -/

/-- The failure of an outcome. -/
def failureOf : Outcome Unit → Option Fault
  | .ok () => none
  | .error f => some f

namespace AccessModel

theorem firstFailure_eq (first : Option Fault) (o : Outcome Unit) :
    firstFailure first o = first.or (failureOf o) := by
  rcases first with _ | f <;> rcases o with _ | u <;> rfl

/-- **The failure that is kept of a series** is the first of all. -/
theorem foldl_firstFailure (os : List (Outcome Unit)) (first : Option Fault) :
    os.foldl firstFailure first = first.or (os.findSome? failureOf) := by
  induction os generalizing first with
  | nil => simp
  | cons o rest ih =>
    rw [List.foldl_cons, ih, firstFailure_eq, List.findSome?_cons, Option.or_assoc]
    cases failureOf o <;> simp

theorem failureOf_outcomeOf (first : Option Fault) : failureOf (outcomeOf first) = first := by
  cases first <;> rfl

/-- **A series ends well exactly if every step did.** -/
theorem outcomeOf_findSome?_eq_ok_iff {os : List (Outcome Unit)} :
    outcomeOf (os.findSome? failureOf) = .ok () ↔ ∀ o ∈ os, o = .ok () := by
  have ok_iff (first : Option Fault) : outcomeOf first = .ok () ↔ first = none := by
    cases first with
    | none => exact iff_of_true rfl rfl
    | some f => exact iff_of_false nofun nofun
  rw [ok_iff, List.findSome?_eq_none_iff]
  refine forall₂_congr fun o _ => ?_
  cases o with
  | ok u => exact iff_of_true rfl rfl
  | error f => exact iff_of_false nofun nofun

end AccessModel

/-- What a cleanup is taken for: that something is missing is no failure of it. -/
def Context.pardon : Outcome Unit → Outcome Unit
  | .ok () => .ok ()
  | .error f => if f.isNotFound then .ok () else .error f

theorem Context.firstFailure_eq (first : Option Fault) (o : Outcome Unit) :
    firstFailure first o = AccessModel.firstFailure first (pardon o) := by
  cases o with
  | ok u => cases first <;> rfl
  | error f =>
    unfold firstFailure pardon
    simp only
    split
    · cases first <;> rfl
    · rfl

/-! ### Turns -/

/-- The ledger after an attempt: what comes of a success is recorded. -/
def Ledger.recorded (l : Ledger) (f : Ledger → Ledger) : Outcome Unit → Ledger
  | .ok () => f l
  | .error _ => l

/-- **The turn of a grant**: its revocation is asked for, and recorded if there is consent. -/
def AccessModel.RevokeTurn (m : AccessModel) (env : Environment) (g : Grant) (s : AccessState)
    (o : Outcome Unit) (s' : AccessState) : Prop :=
  ∃ r, (Change.revoke g.revocation).requestOf m.admin = .ok r ∧
    o = (env.respond s.transcript r).consent ∧
    s' = ⟨env.after s.transcript r,
      s.ledger.recorded (fun l => l.recordRevoke g.principal g.entity (some g.actions)) o⟩

namespace Context

variable (c : Context) (env : Environment)

/-- **The turn of a thing** that is deleted at a path, if there is one. -/
inductive Turn (e : EntityId) : Option String → AccessState → Outcome Unit → AccessState → Prop
  /-- Nothing is deleted on its own. -/
  | idle (s : AccessState) : Turn e none s (.ok ()) s
  /-- The administrator was not granted what it takes, and nothing is deleted. -/
  | unprepared {path : String} {s s₁ : AccessState} {f : Fault}
      (failed : c.access.grantIfMissing c.adminPrincipal e .admin env s = (.error f, s₁)) :
      Turn e (some path) s (.error f) s₁
  /-- The administrator has what it takes, and the deletion is asked for next. -/
  | asked {path : String} {s s₁ : AccessState} {r : Request}
      (prepared : c.access.grantIfMissing c.adminPrincipal e .admin env s = (.ok (), s₁))
      (request : c.admin.request "DELETE" path .empty = .ok r) :
      Turn e (some path) s ((env.respond s₁.transcript r).outcome.map fun _ => ())
        ⟨env.after s₁.transcript r, s₁.ledger⟩

/-- The turn of an entity. -/
def EntityTurn (e : EntityId) : AccessState → Outcome Unit → AccessState → Prop :=
  c.Turn env e e.deletionPath?

/-- The turn of a namespace: the ledger hears of a deletion that was carried out. -/
def NamespaceTurn (ns : NamespaceId) (s : AccessState) (o : Outcome Unit) (s' : AccessState) :
    Prop :=
  ∃ s₁, c.Turn env ns.toEntity (some ns.deletionPath) s o s₁ ∧
    s' = ⟨s₁.transcript, s₁.ledger.recorded (fun l => l.recordNamespaceDeleted ns) o⟩

/-- **When it is a thing's turn**: those registered after it had theirs, and for a namespace also
every entity. -/
inductive Due (s : ContextState) : EntityId → String → AccessState → Prop
  | entity {before after : List EntityId} {e : EntityId} {path : String}
      {os : List (Outcome Unit)} {s₀ : AccessState}
      (registered : s.entities.reverse = before ++ e :: after)
      (deletable : e.deletionPath? = some path)
      (done : OneByOne (c.EntityTurn env) before s.access os s₀) : Due s e path s₀
  | ofNamespace {before after : List NamespaceId} {ns : NamespaceId}
      {os os' : List (Outcome Unit)} {s₀ s₁ : AccessState}
      (entities : OneByOne (c.EntityTurn env) s.entities.reverse s.access os s₁)
      (registered : s.namespaces.reverse = before ++ ns :: after)
      (done : OneByOne (c.NamespaceTurn env) before s₁ os' s₀) :
      Due s ns.toEntity ns.deletionPath s₀

/-- **Nothing is deleted but a registered thing in its turn**, right after the administrator was
found to have, or granted, what it takes. -/
def Licensed (s : ContextState) (x : Event) (u : Transcript) : Prop :=
  ∀ r reply, x = .exchanged r reply → r.method = "DELETE" →
    ∃ e path s₀ s₁, c.Due env s e path s₀ ∧
      c.access.grantIfMissing c.adminPrincipal e .admin env s₀ = (.ok (), s₁) ∧
      s₁.transcript = u ∧ c.admin.request "DELETE" path .empty = .ok r

end Context

/-! ### Where something happened -/

/-- **One transcript goes on from another**, and everything that was added was in order where it
happened. -/
structure Transcript.ExtendsWhere (kind : Event → Transcript → Prop) (t t' : Transcript) :
    Prop where
  grows : t <:+ t'
  inOrder : ∀ {later x u}, t' = later ++ x :: u → t <:+ u → kind x u

namespace Transcript

variable {kind : Event → Transcript → Prop}

instance : IsPreorder Transcript (ExtendsWhere kind) where
  refl t := by
    refine ⟨List.suffix_refl t, ?_⟩
    intro later x u same within
    have short := within.length_le
    rw [same] at short
    simp at short
    omega
  trans t t₁ t₂ h h' := by
    refine ⟨h.grows.trans h'.grows, ?_⟩
    intro later x u same within
    have whole : x :: u <:+ t₂ := ⟨later, same.symm⟩
    rcases suffix_or_cons_suffix h'.grows whole with second | ⟨before, first⟩
    · exact h'.inOrder same second
    · exact h.inOrder first.symm within

theorem extendsWhere_of_extendsWithin {good : Event → Prop} {t t' : Transcript}
    (h : ExtendsWithin good t t') (sub : ∀ x u, good x → kind x u) : ExtendsWhere kind t t' := by
  obtain ⟨⟨during, rfl⟩, within⟩ := h
  refine ⟨List.suffix_append during t, ?_⟩
  rintro later x u same ⟨middle, rfl⟩
  rw [since_append] at within
  have added : during = later ++ x :: middle := by
    rw [← List.cons_append, ← List.append_assoc] at same
    exact List.append_cancel_right same
  rw [added] at within
  exact sub x _ (within x (List.mem_append_right _ List.mem_cons_self))

theorem extendsWhere_cons {x : Event} (t : Transcript) (h : kind x t) :
    ExtendsWhere kind t (x :: t) := by
  refine ⟨List.suffix_cons x t, ?_⟩
  intro later y u same within
  have long := congrArg List.length same
  have short := within.length_le
  rw [List.length_append, List.length_cons, List.length_cons] at long
  have nothing : later = [] := List.eq_nil_of_length_eq_zero (by omega)
  rw [nothing, List.nil_append, List.cons.injEq] at same
  obtain ⟨rfl, rfl⟩ := same
  exact h

end Transcript

/-! ### The series of a teardown -/

namespace AccessModel

variable (m : AccessModel) (env : Environment)

/-- Every grant has its turn. -/
theorem exists_revokeGrants (sends : m.admin.CanSend) (gs : List Grant) (first : Option Fault)
    (s : AccessState) :
    ∃ os s', OneByOne (m.RevokeTurn env) gs s os s' ∧
      m.revokeGrants gs first env s = (.ok (os.foldl firstFailure first), s') := by
  induction gs generalizing first s with
  | nil => exact ⟨[], s, .nil s, rfl⟩
  | cons g rest ih =>
    obtain ⟨r, request⟩ := (RestClient.exists_requestOf_iff (.revoke g.revocation)).2 sends
    have answer : m.admin.ask (.revoke g.revocation) env s.transcript =
        ((env.respond s.transcript r).consent, env.after s.transcript r) := by
      rw [RestClient.ask_apply _ rfl, request]
    have turn : m.RevokeTurn env g s (env.respond s.transcript r).consent _ :=
      ⟨r, request, rfl, rfl⟩
    rw [revokeGrants_cons, Program.bind_apply, AccessAct.attempt_apply, AccessAct.liftM_apply,
      answer]
    cases outcome : (env.respond s.transcript r).consent with
    | ok u =>
      rw [outcome] at turn
      obtain ⟨os, s', later, run⟩ := ih first _
      refine ⟨.ok u :: os, s', .cons turn later, ?_⟩
      rw [List.foldl_cons, firstFailure_eq, show failureOf (.ok u) = none from rfl, Option.or_none]
      exact run
    | error f =>
      rw [outcome] at turn
      obtain ⟨os, s', later, run⟩ := ih (firstFailure first (.error f)) _
      exact ⟨.error f :: os, s', .cons turn later, run⟩

/-- **The teardown of the access model** is the series of its grants, then a refresh. -/
theorem exists_teardown (sends : m.admin.CanSend) (s : AccessState) :
    ∃ os s', OneByOne (m.RevokeTurn env) s.ledger.grants s os s' ∧
      m.teardown env s =
        (outcomeOf ((os ++ [(m.refresh env s'.transcript).1]).findSome? failureOf),
          ⟨(m.refresh env s'.transcript).2, Ledger.empty⟩) := by
  obtain ⟨os, s', series, run⟩ := m.exists_revokeGrants env sends s.ledger.grants none s
  refine ⟨os, s', series, ?_⟩
  have all : firstFailure (os.foldl firstFailure none) (m.refresh env s'.transcript).1 =
      (os ++ [(m.refresh env s'.transcript).1]).findSome? failureOf := by
    rw [firstFailure_eq, foldl_firstFailure, List.findSome?_append, List.findSome?_singleton,
      Option.none_or]
  rw [teardown_apply run, all]

end AccessModel

namespace Context

variable (c : Context) (env : Environment)

/-- A cleanup is the turn of what it is for. -/
theorem turn_cleanup (sends : c.admin.CanSend) (e : EntityId) (segments : List String)
    (s : AccessState) :
    c.Turn env e (some (Route.path segments)) s (c.cleanup e (Route.path segments) env s).1
      (c.cleanup e (Route.path segments) env s).2 := by
  obtain ⟨r, request⟩ := (c.admin.request_route_iff "DELETE" segments .empty).2 sends
  unfold cleanup
  rw [Program.bind_apply]
  rcases prepared : c.access.grantIfMissing c.adminPrincipal e .admin env s with ⟨f | u, s₁⟩
  · exact .unprepared prepared
  · have turn := Turn.asked prepared request
    simp only
    rw [AccessAct.liftM_apply, RestClient.delete_apply, request]
    exact turn

theorem turn_cleanupEntity (sends : c.admin.CanSend) (e : EntityId) (s : AccessState) :
    c.EntityTurn env e s (c.cleanupEntity e env s).1 (c.cleanupEntity e env s).2 := by
  unfold EntityTurn
  rw [cleanupEntity_eq]
  cases e <;> first | exact .idle s | exact c.turn_cleanup env sends _ _ s

/-- **Every entity has its turn.** -/
theorem exists_cleanupEntities (sends : c.admin.CanSend) (es : List EntityId)
    (first : Option Fault) (s : AccessState) :
    ∃ os s', OneByOne (c.EntityTurn env) es s os s' ∧
      c.cleanupEntities es first env s =
        (.ok ((os.map pardon).foldl AccessModel.firstFailure first), s') := by
  induction es generalizing first s with
  | nil => exact ⟨[], s, .nil s, rfl⟩
  | cons e rest ih =>
    have turn := c.turn_cleanupEntity env sends e s
    unfold cleanupEntities
    rw [Program.bind_apply, AccessAct.attempt_apply]
    generalize c.cleanupEntity e env s = out at turn ⊢
    obtain ⟨o, s₁⟩ := out
    obtain ⟨os, s', later, run⟩ := ih (firstFailure first o) s₁
    refine ⟨o :: os, s', .cons turn later, ?_⟩
    rw [List.map_cons, List.foldl_cons, ← firstFailure_eq]
    exact run

/-- **Every namespace has its turn.** -/
theorem exists_cleanupNamespaces (sends : c.admin.CanSend) (nss : List NamespaceId)
    (first : Option Fault) (s : AccessState) :
    ∃ os s', OneByOne (c.NamespaceTurn env) nss s os s' ∧
      c.cleanupNamespaces nss first env s =
        (.ok ((os.map pardon).foldl AccessModel.firstFailure first), s') := by
  induction nss generalizing first s with
  | nil => exact ⟨[], s, .nil s, rfl⟩
  | cons ns rest ih =>
    have turn := c.turn_cleanup env sends ns.toEntity ["unrecoverable", "namespaces", ns.name] s
    unfold cleanupNamespaces
    rw [Program.bind_apply, AccessAct.attempt_apply, cleanupNamespace_eq]
    unfold NamespaceId.deletionPath
    generalize c.cleanup ns.toEntity _ env s = out at turn ⊢
    obtain ⟨o, s₁⟩ := out
    obtain ⟨os, s', later, run⟩ := ih (firstFailure first o)
      ⟨s₁.transcript, s₁.ledger.recorded (fun l => l.recordNamespaceDeleted ns) o⟩
    refine ⟨o :: os, s', .cons ⟨s₁, turn, rfl⟩ later, ?_⟩
    rw [List.map_cons, List.foldl_cons, ← firstFailure_eq, ← run]
    cases o <;> rfl

/-- **A teardown is three series and a refresh.** -/
theorem exists_series_of_teardown (sends : c.admin.CanSend) (revokes : c.access.admin.CanSend)
    (s : ContextState) :
    ∃ s₁ s₂ s₃ entities namespaces grants,
      OneByOne (c.EntityTurn env) s.entities.reverse s.access entities s₁ ∧
      OneByOne (c.NamespaceTurn env) s.namespaces.reverse s₁ namespaces s₂ ∧
      OneByOne (c.access.RevokeTurn env) s₂.ledger.grants s₂ grants s₃ ∧
      c.teardown env s =
        (AccessModel.outcomeOf ((entities.map pardon ++ namespaces.map pardon ++ grants ++
          [(c.access.refresh env s₃.transcript).1]).findSome? failureOf),
        ⟨⟨(c.access.refresh env s₃.transcript).2, Ledger.empty⟩, s.clients, [], []⟩) := by
  obtain ⟨es, s₁, entities, run⟩ :=
    c.exists_cleanupEntities env sends s.entities.reverse none s.access
  obtain ⟨ns, s₂, namespaces, run'⟩ :=
    c.exists_cleanupNamespaces env sends s.namespaces.reverse
      ((es.map pardon).foldl AccessModel.firstFailure none) s₁
  obtain ⟨gs, s₃, grants, run''⟩ := c.access.exists_teardown env revokes s₂
  refine ⟨s₁, s₂, s₃, es, ns, gs, entities, namespaces, grants, ?_⟩
  unfold teardown
  simp only [Program.bind_apply, ContextAct.state_apply, ContextAct.update_apply,
    ContextAct.liftM_apply, run, run', run'', AccessAct.attempt_apply]
  have all : AccessModel.firstFailure
      ((ns.map pardon).foldl AccessModel.firstFailure
        ((es.map pardon).foldl AccessModel.firstFailure none))
      (AccessModel.outcomeOf
        ((gs ++ [(c.access.refresh env s₃.transcript).1]).findSome? failureOf)) =
      (es.map pardon ++ ns.map pardon ++ gs ++
        [(c.access.refresh env s₃.transcript).1]).findSome? failureOf := by
    rw [AccessModel.firstFailure_eq, AccessModel.failureOf_outcomeOf,
      AccessModel.foldl_firstFailure, AccessModel.foldl_firstFailure, Option.none_or]
    simp only [List.findSome?_append, Option.or_assoc]
  rw [all]
  cases (es.map pardon ++ ns.map pardon ++ gs ++
    [(c.access.refresh env s₃.transcript).1]).findSome? failureOf <;> rfl

/-! ### What is deleted -/

variable {c env} {s : ContextState}

theorem licensed_of_spared {x : Event} (spared : x.isDeletion = false) (u : Transcript) :
    c.Licensed env s x u := by
  rintro r reply rfl delete
  rw [Event.isDeletion, delete] at spared
  cases spared

/-- A turn deletes at most the thing whose turn it is, in the end. -/
theorem Turn.licensed {e : EntityId} {path : Option String} {s₀ s₁ : AccessState}
    {o : Outcome Unit} (turn : c.Turn env e path s₀ o s₁)
    (due : ∀ path', path = some path' → c.Due env s e path' s₀) :
    Transcript.ExtendsWhere (c.Licensed env s) s₀.transcript s₁.transcript := by
  have prepares : Leads (InvImage (ExtendsWithin fun x => x.isDeletion = false)
      AccessState.transcript) env (c.access.grantIfMissing c.adminPrincipal e .admin) :=
    (c.access.approved_grantIfMissing _ e _).spares
  cases turn with
  | idle => exact refl_of _ _
  | unprepared failed =>
    exact Transcript.extendsWhere_of_extendsWithin (prepares.of_run failed)
      fun _ u spared => licensed_of_spared spared u
  | asked prepared request =>
    refine trans_of _ (Transcript.extendsWhere_of_extendsWithin (prepares.of_run prepared)
      fun _ u spared => licensed_of_spared spared u) (Transcript.extendsWhere_cons _ ?_)
    intro r reply same _
    cases same
    exact ⟨e, _, _, _, due _ rfl, prepared, rfl, request⟩

/-- **A teardown deletes nothing but what is registered**, each in its turn. -/
theorem licensed_of_series {s₁ s₂ s₃ : AccessState} {os os' os'' : List (Outcome Unit)}
    (entities : OneByOne (c.EntityTurn env) s.entities.reverse s.access os s₁)
    (namespaces : OneByOne (c.NamespaceTurn env) s.namespaces.reverse s₁ os' s₂)
    (grants : OneByOne (c.access.RevokeTurn env) s₂.ledger.grants s₂ os'' s₃) :
    Transcript.ExtendsWhere (c.Licensed env s) s.access.transcript
      (c.access.refresh env s₃.transcript).2 := by
  let R := InvImage (Transcript.ExtendsWhere (c.Licensed env s)) AccessState.transcript
  have first : R s.access s₁ := by
    refine entities.rel_of_steps (.nil _) ?_
    intro front e back done s₀ o s' split before turn
    exact turn.licensed fun path deletable => .entity split deletable before
  have second : R s₁ s₂ := by
    refine namespaces.rel_of_steps (.nil _) ?_
    rintro front ns back done s₀ o _ split before ⟨s', turn, rfl⟩
    refine turn.licensed ?_
    intro path same
    cases same
    exact .ofNamespace entities split before
  have third : R s₂ s₃ := by
    refine grants.rel_of_steps (.nil _) ?_
    rintro front g back done s₀ o _ - - ⟨r, request, -, rfl⟩
    refine Transcript.extendsWhere_cons _ (licensed_of_spared ?_ _)
    have post : r.method = "POST" := (RestClient.request_eq_ok request).1
    rw [Event.isDeletion, post]
    rfl
  have refreshed : ExtendsWithin c.access.Refreshes s₃.transcript
      (c.access.refresh env s₃.transcript).2 := c.access.leads_refresh_within s₃.transcript
  have last : Transcript.ExtendsWhere (c.Licensed env s) s₃.transcript _ :=
    Transcript.extendsWhere_of_extendsWithin refreshed fun _ u refreshes =>
      licensed_of_spared refreshes.isDeletion u
  have sofar : Transcript.ExtendsWhere _ s.access.transcript s₃.transcript :=
    trans_of R (trans_of R first second) third
  exact trans_of _ sofar last

/-- **Where nothing is left to clean up**, a teardown is a refresh. -/
theorem teardown_of_nothing_left (sends : c.admin.CanSend) (revokes : c.access.admin.CanSend)
    (clients : OrderedMap String RestClient) (t : Transcript) :
    (c.teardown env ⟨⟨t, Ledger.empty⟩, clients, [], []⟩).2.access.transcript =
      (c.access.refresh env t).2 := by
  obtain ⟨s₁, s₂, s₃, es, ns, gs, entities, namespaces, grants, run⟩ :=
    c.exists_series_of_teardown env sends revokes ⟨⟨t, Ledger.empty⟩, clients, [], []⟩
  cases entities
  cases namespaces
  cases grants
  rw [run]

/-- **What a teardown does and what comes of it**, whatever the platform answers.  Every
registered entity has its turn, then every registered namespace, the last registered first, then
every grant that the ledger lists by then, and last the cache has its one refresh, as the policy
has it.  The outcome is the first failure that no cleanup is pardoned for.  Only registered things
are deleted, each right after the administrator was found to have what it takes.  Nothing is left
for another teardown to delete or to revoke. -/
theorem teardown_in_order (c : Context) (sends : c.admin.CanSend)
    (revokes : c.access.admin.CanSend) (env : Environment) (s : ContextState) :
    let torn := c.teardown env s
    let t := torn.2.access.transcript
    (∃ s₁ s₂ s₃ entities namespaces grants refreshed,
      OneByOne (c.EntityTurn env) s.entities.reverse s.access entities s₁ ∧
      OneByOne (c.NamespaceTurn env) s.namespaces.reverse s₁ namespaces s₂ ∧
      OneByOne (c.access.RevokeTurn env) s₂.ledger.grants s₂ grants s₃ ∧
      c.access.RefreshTurn env s₃.transcript refreshed t ∧
      let outcomes := entities.map pardon ++ namespaces.map pardon ++ grants ++ [refreshed]
      torn.1 = AccessModel.outcomeOf (outcomes.findSome? failureOf) ∧
      (torn.1 = .ok () ↔ ∀ o ∈ outcomes, o = .ok ())) ∧
    (∀ later r reply u, t = later ++ .exchanged r reply :: u → s.access.transcript <:+ u →
      r.method = "DELETE" → ∃ e path s₀ s₁, c.Due env s e path s₀ ∧
        c.access.grantIfMissing c.adminPrincipal e .admin env s₀ = (.ok (), s₁) ∧
        s₁.transcript = u ∧ c.admin.request "DELETE" path .empty = .ok r) ∧
    (torn.2.entities = [] ∧ torn.2.namespaces = [] ∧ torn.2.access.ledger = Ledger.empty) ∧
    ∀ env' r reply, .exchanged r reply ∈ (c.teardown env' torn.2).2.access.transcript.since t →
      r.method ≠ "DELETE" ∧ ∀ v, ¬ (Change.revoke v).AskedBy r := by
  obtain ⟨s₁, s₂, s₃, es, ns, gs, entities, namespaces, grants, run⟩ :=
    c.exists_series_of_teardown env sends revokes s
  intro torn t
  have whole : torn = _ := run
  refine ⟨⟨s₁, s₂, s₃, es, ns, gs, (c.access.refresh env s₃.transcript).1, entities, namespaces,
    grants, ?_, ?_, ?_⟩, ?_, ?_, ?_⟩
  · show c.access.RefreshTurn env s₃.transcript _ torn.2.access.transcript
    rw [whole]
    exact c.access.refreshTurn_refresh env s₃.transcript
  · rw [whole]
  · rw [whole]
    exact AccessModel.outcomeOf_findSome?_eq_ok_iff
  · intro later r reply u split within delete
    have licensed := licensed_of_series entities namespaces grants
    have happened : (c.access.refresh env s₃.transcript).2 = later ++ .exchanged r reply :: u := by
      rw [← split]
      show _ = torn.2.access.transcript
      rw [whole]
    exact licensed.inOrder happened within r reply rfl delete
  · rw [whole]
    exact ⟨rfl, rfl, rfl⟩
  · intro env' r reply happened
    have again : (c.teardown env' torn.2).2.access.transcript = (c.access.refresh env' t).2 := by
      show _ = (c.access.refresh env' torn.2.access.transcript).2
      rw [whole]
      exact teardown_of_nothing_left sends revokes _ _
    rw [again] at happened
    have refreshed : ExtendsWithin c.access.Refreshes t (c.access.refresh env' t).2 :=
      c.access.leads_refresh_within t
    have refreshes := refreshed.within _ happened
    refine ⟨?_, fun v => refreshes.not_askedBy _⟩
    rw [refreshes.post_empty.1]
    decide

end Context

/-- Where every deletion is refused, that is reported; the registry is empty all the same, and the
platform is asked to forget what it cached. -/
theorem Context.teardown_in_order_refused :
    let env : Environment := .replying fun _ r =>
      if r.method = "DELETE" then .answered ⟨403, "no"⟩ else .answered ⟨200, "[]"⟩
    let c : Context :=
      { Context.local with access := ⟨.local, .invalidateOnMutation, "invalidate"⟩ }
    let s : ContextState :=
      { ContextState.start [] with namespaces := [⟨"a"⟩], entities := [.dataset "a" "d"] }
    ∃ o after, c.teardown env s = (o, after) ∧ o ≠ .ok () ∧ after.entities = [] ∧
      after.namespaces = [] ∧ after.access.ledger = Ledger.empty ∧
      ∃ r reply u, RestClient.local.request "POST" "invalidate" .empty = .ok r ∧
        after.access.transcript = .exchanged r reply :: u := by
  intro env c s
  have reported : (c.teardown env s).1 ≠ .ok () := by
    decide +kernel
  obtain ⟨⟨s₁, s₂, s₃, es, ns, gs, refreshed, -, -, -, turn, -⟩, -, ⟨none, empty, bare⟩, -⟩ :=
    Context.teardown_in_order c RestClient.canSend_local RestClient.canSend_local env s
  refine ⟨(c.teardown env s).1, (c.teardown env s).2, Prod.mk.eta.symm, reported, none, empty,
    bare, ?_⟩
  generalize (c.teardown env s).2.access.transcript = t at turn
  cases turn with
  | asked policy request => exact ⟨_, _, _, request, rfl⟩
  | unasked policy refused =>
    have request : ∃ r, RestClient.local.request "POST" "invalidate" .empty = .ok r := ⟨_, rfl⟩
    obtain ⟨r, sent⟩ := request
    cases sent.symm.trans refused
  | waited policy => cases policy
  | idle policy => cases policy

end AccessHarness
