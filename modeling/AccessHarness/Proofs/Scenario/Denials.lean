import AccessHarness.Proofs.Scenario.Histories

/-!
# Operations that must be denied

A scenario demands of some operations that they are denied.  What it learns is a fault; what
counts is an answer of the platform.

* `Denial` — an operation that has to be denied, and the user it is run as.
* `Context.RefusedBetween`, `Context.RefusedInTurn` — one operation was refused, or several one
  after the other.
* `Context.Demands` — a program that succeeds only if operations were refused in turn.
* `Context.Demands.denied` — what is asserted to be denied is refused, or the program fails.

### What is load-bearing

**The program is walked once, in its own order.**  A step of which nothing is demanded only has to
go on from where it began (`Demands.skip`), and a step that is demanded to be denied adds one
denial (`Demands.append`).  A step in between cannot hide anything: a denial is a stretch of the
history, and the history is only added to.

**A denial names its user, not a client.**  `Context.clientOf` says which client a user has in a
state of a run; from when it was obtained it stays the same (`Demands.client`), so the operation
was run as that user and as nobody else.
-/

namespace AccessHarness

open Program (Leads Accountable)
open ContextState (Later)

/-- **An operation that a scenario demands to be denied**, and the user it is run as. -/
structure Denial where
  user : String
  operation : RestClient → ContextAct Unit

/-- The denial of a session, whatever it would come to. -/
def Denial.of {α : Type} (user : String) (operation : RestClient → Session α) : Denial where
  user := user
  operation client := do
    let _ ← operation client
    return ()

/-- It runs as the session does. -/
theorem Denial.of_apply {α : Type} {env : Environment} (user : String)
    (operation : RestClient → Session α) (client : RestClient) (s : ContextState) :
    (Denial.of user operation).operation client env s =
      ((operation client env s.transcript).1.map fun _ => (),
        { s with access :=
          { s.access with transcript := (operation client env s.transcript).2 } }) := by
  show (do
    let _ ← (liftM (operation client) : ContextAct α)
    return () : ContextAct Unit) env s = _
  rw [Program.bind_apply, ContextAct.liftM_session_apply]
  cases (operation client env s.transcript).1 <;> rfl

namespace Context

variable (c : Context) (env : Environment)

/-- **An operation is refused**: run between `t` and `t'` by the user's client, it ends with an
answer that refuses the caller. -/
def RefusedBetween (last : ContextState) (d : Denial) (t t' : Transcript) : Prop :=
  ∃ client s, c.clientOf s d.user = some client ∧ Later env s last ∧
    s.transcript = t ∧ (d.operation client env s).2.transcript = t' ∧
    ∃ u r, env.Continues t u ∧ t' = env.after u r ∧ (env.respond u r).isRefusal = true

/-- **Operations are refused one after the other**, in the course of a run that ends in a given
state. -/
inductive RefusedInTurn (last : ContextState) : List Denial → Transcript → Prop
  | nil {t : Transcript} (rest : env.Continues t last.transcript) : RefusedInTurn last [] t
  | cons {d : Denial} {ds : List Denial} {t t₁ t₂ : Transcript} (before : env.Continues t t₁)
      (refused : c.RefusedBetween env last d t₁ t₂) (rest : RefusedInTurn last ds t₂) :
      RefusedInTurn last (d :: ds) t

variable {c env} {last : ContextState} {ds : List Denial} {t t' : Transcript}

theorem RefusedInTurn.of_later (h : c.RefusedInTurn env last ds t') (before : env.Continues t t') :
    c.RefusedInTurn env last ds t := by
  cases h with
  | nil rest => exact .nil (before.trans rest)
  | cons before' refused rest => exact .cons (before.trans before') refused rest

theorem RefusedInTurn.exists_refusal {d : Denial} (h : c.RefusedInTurn env last (d :: ds) t) :
    ∃ u r, (env.respond u r).isRefusal = true := by
  cases h with
  | cons _ refused _ =>
    obtain ⟨_, _, -, -, -, -, u, r, -, -, refusal⟩ := refused
    exact ⟨u, r, refusal⟩

/-- Operations that were refused in one part of a run, and then others in the next. -/
theorem RefusedInTurn.append {mid : ContextState} {ds' : List Denial}
    (h : c.RefusedInTurn env mid ds t) (later : Later env mid last)
    (h' : c.RefusedInTurn env last ds' mid.transcript) :
    c.RefusedInTurn env last (ds ++ ds') t := by
  induction h with
  | nil rest => exact h'.of_later rest
  | cons before refused _ ih =>
    obtain ⟨client, s, known, later', refusal⟩ := refused
    exact .cons before ⟨client, s, known, trans_of _ later' later, refusal⟩ ih

/-- **An operation that fails because its user was refused** ends with an answer that says
so. -/
theorem refusedBetween_of_error {d : Denial} {client : RestClient} {s : ContextState} {f : Fault}
    (known : c.clientOf s d.user = some client)
    (accountable : Accountable ContextState.transcript env (d.operation client))
    (failed : (d.operation client env s).1 = .error f) (authorization : f.isAuthorization = true)
    (later : Later env s last) :
    c.RefusedBetween env last d s.transcript (d.operation client env s).2.transcript := by
  obtain ⟨t, r, before, after, refusal, -⟩ :=
    accountable.borneOut s f failed (.inl authorization)
  rw [authorization] at refusal
  exact ⟨client, s, known, later, rfl, rfl, t, r, before, after, refusal.symm⟩

/-! ### What a scenario demands -/

variable (c env)

/-- Clients that are known in a state. -/
def Knows (s : ContextState) (known : List (String × RestClient)) : Prop :=
  ∀ x ∈ known, c.clientOf s x.1 = some x.2

/-- **A program that succeeds only if operations were refused in turn**, as long as it starts
with some clients known. -/
def Demands {α : Type} (known : List (String × RestClient)) (ds : List Denial)
    (m : ContextAct α) : Prop :=
  ∀ s a s', c.Knows s known → m env s = (.ok a, s') →
    Later env s s' ∧ c.RefusedInTurn env s' ds s.transcript

variable {c env} {α β : Type} {known : List (String × RestClient)}

theorem Knows.later {s s' : ContextState} (h : c.Knows s known) (later : Later env s s') :
    c.Knows s' known := fun x mem => clientOf_later later (h x mem)

namespace Demands

/-- Nothing is demanded of a step that goes on. -/
theorem done {m : ContextAct α} (later : Leads (Later env) env m) : c.Demands env known [] m := by
  intro s a s' _ run
  have onward := later.of_run run
  exact ⟨onward, .nil onward.history⟩

/-- What one part demands, and then another. -/
theorem append {ds ds' : List Denial} {m : ContextAct α} {k : α → ContextAct β}
    (hm : c.Demands env known ds m) (hk : ∀ a, c.Demands env known ds' (k a)) :
    c.Demands env known (ds ++ ds') (m >>= k) := by
  intro s b s' knows run
  obtain ⟨a, s₁, first, second⟩ := Program.exists_of_bind_eq_ok run
  obtain ⟨later, refused⟩ := hm s a s₁ knows first
  obtain ⟨later', refused'⟩ := hk a s₁ b s' (knows.later later) second
  exact ⟨trans_of _ later later', refused.append later' refused'⟩

/-- **A step of which nothing is demanded.** -/
theorem skip {m : ContextAct α} {k : α → ContextAct β} (later : Leads (Later env) env m)
    (hk : ∀ a, c.Demands env known ds (k a)) : c.Demands env known ds (m >>= k) :=
  append (done later) hk

/-- The same, where something is known of the value the step yields. -/
theorem skipTo {P : α → Prop} {m : ContextAct α} {k : α → ContextAct β}
    (later : Leads (Later env) env m)
    (yields : ∀ s a s', m env s = (.ok a, s') → P a)
    (hk : ∀ a, P a → c.Demands env known ds (k a)) : c.Demands env known ds (m >>= k) := by
  intro s b s' knows run
  obtain ⟨a, s₁, first, second⟩ := Program.exists_of_bind_eq_ok run
  have onward := later.of_run first
  obtain ⟨later', refused⟩ := hk a (yields s a s₁ first) s₁ b s' (knows.later onward) second
  exact ⟨trans_of _ onward later', refused.of_later onward.history⟩

/-- **From when a client was obtained, it is known.** -/
theorem client {user : String} {k : RestClient → ContextAct β}
    (hk : ∀ client, c.Demands env ((user, client) :: known) ds (k client)) :
    c.Demands env known ds (c.clientFor user >>= k) := by
  intro s b s' knows run
  obtain ⟨client, s₁, first, second⟩ := Program.exists_of_bind_eq_ok run
  have later := (c.later_clientFor user).of_run first
  have knows' : c.Knows s₁ ((user, client) :: known) := by
    rintro x mem
    rcases List.mem_cons.1 mem with rfl | mem
    · exact c.clientOf_of_clientFor first
    · exact knows.later later x mem
  obtain ⟨later', refused⟩ := hk client s₁ b s' knows' second
  exact ⟨trans_of _ later later', refused.of_later later.history⟩

/-- **What is asserted to be denied is refused**, or the scenario fails. -/
theorem denied {user : String} {operation : RestClient → Session α} {client : RestClient}
    (mem : (user, client) ∈ known) (accountable : Accountable id env (operation client))
    (p : Principal) (e : EntityId) (a : Action) :
    c.Demands env known [.of user operation]
      (ContextAct.assertDenied p e a (operation client)) := by
  intro s u s' knows run
  rw [ContextAct.assertDenied_apply, Prod.mk.injEq] at run
  obtain ⟨asserted, after⟩ := run
  obtain ⟨f, observed⟩ := (Probe.requireDenied_eq_ok_iff p e a).1 asserted
  obtain ⟨failed, authorization⟩ := Probe.ofOutcome_eq_denied_iff.1 observed
  have ran : (Denial.of user operation).operation client env s = (.error f, s') := by
    rw [Denial.of_apply, failed, after]
    rfl
  have account : Accountable ContextState.transcript env
      ((Denial.of user operation).operation client) :=
    .bind (ContextAct.accountable_liftM_session accountable) fun _ => .pure _
  have later : Later env s s' := by
    have onward := account.onward s
    rw [ran] at onward
    refine ⟨onward, ?_⟩
    rw [← after]
    exact id
  have refused := refusedBetween_of_error (knows _ mem) account (by rw [ran]) authorization later
  rw [ran] at refused
  exact ⟨later, .cons .refl refused (.nil .refl)⟩

end Demands

end Context

end AccessHarness
