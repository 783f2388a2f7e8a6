import AccessHarness.Scenario.Context
import Mathlib.Order.Defs.Unbundled

/-!
# Programs and where they lead

Sessions, operations of the access model and operations in a context differ in their state
only: each is a `Program`, and each is opened by the same two equations (`bind_apply`,
`pure_apply`).  An operation on a part of the state is lifted to the whole; what the lift
leaves alone is then visible in the equation (`AccessAct.liftM_apply`, …).

### Relations instead of cases

`Program.Leads R env m` says that `m` takes every state to an `R`-related one, *however it
ends*.  A failing step ends a program early, so a relation that is reflexive and transitive
is kept by a whole program as soon as every step keeps it (`Leads.bind`), and nobody has to
look at the steps that were left out.
-/

namespace AccessHarness

/-- A program over a state, in an environment. -/
abbrev Program (σ α : Type) := ReaderT Environment (Act σ) α

namespace Program

variable {σ α β : Type} {env : Environment}

@[simp] theorem pure_apply (a : α) (s : σ) : (pure a : Program σ α) env s = (.ok a, s) := rfl

/-- **A program goes on with what a step yields, and ends where a step fails.** -/
theorem bind_apply (m : Program σ α) (k : α → Program σ β) (s : σ) :
    (m >>= k) env s =
      match m env s with
      | (.ok a, s') => k a env s'
      | (.error f, s') => (.error f, s') := by
  simp only [bind, ReaderT.bind, ExceptT.bind, ExceptT.mk, StateT.bind, ExceptT.bindCont]
  rcases m env s with ⟨_ | _, _⟩ <;> rfl

/-- **A program succeeds step by step.** -/
theorem exists_of_bind_eq_ok {m : Program σ α} {k : α → Program σ β} {s s' : σ} {b : β}
    (h : (m >>= k) env s = (.ok b, s')) :
    ∃ a s₁, m env s = (.ok a, s₁) ∧ k a env s₁ = (.ok b, s') := by
  rw [bind_apply] at h
  rcases run : m env s with ⟨f | a, s₁⟩ <;> rw [run] at h
  · cases h
  · exact ⟨a, s₁, rfl, h⟩

/-- The state after some programs, run one after the other whatever came of each. -/
def inTurn (env : Environment) (programs : List (Program σ α)) (s : σ) : σ :=
  programs.foldl (fun s m => (m env s).2) s

theorem inTurn_append (first second : List (Program σ α)) (s : σ) :
    inTurn env (first ++ second) s = inTurn env second (inTurn env first s) :=
  List.foldl_append

/-- **Where a program leads**: every state to a related one, whether it fails or not. -/
def Leads (R : σ → σ → Prop) (env : Environment) (m : Program σ α) : Prop :=
  ∀ s, R s (m env s).2

namespace Leads

variable {R R' : σ → σ → Prop}

theorem of_run {m : Program σ α} {s s' : σ} {o : Outcome α} (h : Leads R env m)
    (run : m env s = (o, s')) : R s s' := by
  have related := h s
  rwa [run] at related

theorem mono (sub : ∀ {s s'}, R s s' → R' s s') {m : Program σ α} (h : Leads R env m) :
    Leads R' env m := fun s => sub (h s)

/-- **A step along one relation, and the rest along another**: a failing step has to lead along what
they compose to by itself. -/
theorem compose {Q T : σ → σ → Prop} (failed : ∀ {s s'}, Q s s' → T s s')
    (whole : ∀ {s s₁ s'}, Q s s₁ → R s₁ s' → T s s') {m : Program σ α} {k : α → Program σ β}
    (hm : Leads Q env m) (hk : ∀ a, Leads R env (k a)) : Leads T env (m >>= k) := by
  intro s
  rw [bind_apply]
  have first := hm s
  rcases hm' : m env s with ⟨f | a, s₁⟩ <;> rw [hm'] at first
  · exact failed first
  · exact whole first (hk a s₁)

variable [IsPreorder σ R]

theorem pure (a : α) : Leads R env (Pure.pure a : Program σ α) := fun s => refl_of R s

theorem throw (f : Fault) : Leads R env (MonadExcept.throw f : Program σ α) := fun s => refl_of R s

/-- Steps that lead along a relation make a program that does. -/
theorem bind {m : Program σ α} {k : α → Program σ β} (hm : Leads R env m)
    (hk : ∀ a, Leads R env (k a)) : Leads R env (m >>= k) := by
  refine compose ?_ ?_ hm hk
  · exact fun first => first
  · exact fun first rest => trans_of R first rest

theorem inTurn {programs : List (Program σ α)} (h : ∀ m ∈ programs, Leads R env m) (s : σ) :
    R s (inTurn env programs s) := by
  induction programs generalizing s with
  | nil => exact refl_of R s
  | cons m rest ih =>
    have later := ih (fun m' mem => h m' (List.mem_cons_of_mem m mem)) (m env s).2
    exact trans_of R (h m List.mem_cons_self s) later

end Leads

end Program

/-- A relation on a part of a state is one on the whole. -/
instance isPreorder_invImage {σ τ : Type} (part : σ → τ) (R : τ → τ → Prop) [IsPreorder τ R] :
    IsPreorder σ (InvImage R part) where
  refl s := refl_of R (part s)
  trans _ _ _ h h' := trans_of R h h'

theorem Session.leads_ofOutcome {α : Type} {env : Environment} {R : Transcript → Transcript → Prop}
    [IsPreorder Transcript R] (o : Outcome α) :
    Program.Leads R env (Session.ofOutcome o) := fun t => refl_of R t

/-! ### Lifts -/

namespace AccessAct

variable {α : Type} {env : Environment}

/-- A session leaves the ledger alone. -/
@[simp] theorem liftM_apply (m : Session α) (s : AccessState) :
    (liftM m : AccessAct α) env s =
      ((m env s.transcript).1, { s with transcript := (m env s.transcript).2 }) := rfl

/-- Where a session leads, it leads in the access model. -/
theorem leads_liftM {R : Transcript → Transcript → Prop} {m : Session α}
    (h : Program.Leads R env m) :
    Program.Leads (InvImage R AccessState.transcript) env (liftM m : AccessAct α) := fun s =>
  h s.transcript

@[simp] theorem ofSession_apply (m : Session α) (s : AccessState) :
    ofSession m env s =
      ((m env s.transcript).1, { s with transcript := (m env s.transcript).2 }) := rfl

@[simp] theorem ledger_apply (s : AccessState) : ledger env s = (.ok s.ledger, s) := rfl

@[simp] theorem record_apply (f : Ledger → Ledger) (s : AccessState) :
    record f env s = (.ok (), { s with ledger := f s.ledger }) := rfl

@[simp] theorem attempt_apply (m : AccessAct α) (s : AccessState) :
    attempt m env s = (.ok (m env s).1, (m env s).2) := rfl

end AccessAct

namespace ContextAct

variable {α : Type} {env : Environment}

/-- An operation of the access model leaves clients and registry alone. -/
@[simp] theorem liftM_apply (m : AccessAct α) (s : ContextState) :
    (liftM m : ContextAct α) env s =
      ((m env s.access).1, { s with access := (m env s.access).2 }) := rfl

@[simp] theorem liftM_session_apply (m : Session α) (s : ContextState) :
    (liftM m : ContextAct α) env s =
      ((m env s.access.transcript).1,
        { s with
          access := { s.access with transcript := (m env s.access.transcript).2 } }) := rfl

/-- Where an operation of the access model leads, it leads in a context. -/
theorem leads_liftM {R : AccessState → AccessState → Prop} {m : AccessAct α}
    (h : Program.Leads R env m) :
    Program.Leads (InvImage R ContextState.access) env (liftM m : ContextAct α) := fun s =>
  h s.access

@[simp] theorem state_apply (s : ContextState) : state env s = (.ok s, s) := rfl

@[simp] theorem update_apply (f : ContextState → ContextState) (s : ContextState) :
    update f env s = (.ok (), f s) := rfl

@[simp] theorem attempt_apply (m : ContextAct α) (s : ContextState) :
    attempt m env s = (.ok (m env s).1, (m env s).2) := rfl

@[simp] theorem probe_apply (m : ContextAct α) (s : ContextState) :
    probe m env s = (.ok (.ofOutcome (m env s).1), (m env s).2) := rfl

end ContextAct

end AccessHarness
