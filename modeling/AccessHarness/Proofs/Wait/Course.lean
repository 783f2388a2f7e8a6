import AccessHarness.Wait.Loop
import Mathlib.Order.Defs.Unbundled

/-!
# The course of a wait

`WaitSpec.poll` evaluates an operation, decides whether to stop, to give up or to sleep, and starts
again.  This file says what a whole wait goes through, on any timeline and however long the
evaluations take.

* `Outcome.isDecisive` — outcomes that end a wait.
* `WaitSpec.InVain` — evaluations that decided nothing, each with the pause after it.
* `WaitSpec.waitForValue_eq_iff` — a wait is some evaluations in vain and one that ends it.

### What is load-bearing

One evaluation has three continuations (`poll_of_decisive`, `poll_of_late`, `poll_of_early`).  The
third is a step of `InVain`, so the recursion of the wait is unfolded there and nowhere else: what a
wait comes to, and what it preserves (`WaitSpec.waitForValue_cases`, `WaitSpec.rel_waitForValue`),
is read off the evaluations in vain.
-/

namespace AccessHarness

variable {σ α : Type}

/-! ### Decisive outcomes -/

namespace Outcome

/-- Whether an outcome ends a wait: an accepted value, or a fault that does not say "not
yet". -/
def isDecisive (accept : α → Bool) : Outcome α → Bool
  | .ok v => accept v
  | .error f => !f.isNotFound

/-- An outcome as a timeout quotes it. -/
def seen (shown : α → String) : Outcome α → String
  | .ok v => shown v
  | .error f => f.message

end Outcome

namespace Observation

variable {accept : α → Bool} {shown : α → String}

/-- A decisive outcome is observed as what it is. -/
theorem ofOutcome_of_decisive {o : Outcome α} (h : Outcome.isDecisive accept o = true) :
    ofOutcome accept shown o =
      match o with
      | .ok v => .met v
      | .error f => .broken f := by
  cases o with
  | ok v =>
    have accepted : accept v = true := h
    simp [ofOutcome, accepted]
  | error f =>
    have final : f.isRetryable = false := by simpa [Outcome.isDecisive, Fault.isRetryable] using h
    simp [ofOutcome, final]

/-- Any other outcome is observed as "not yet". -/
theorem ofOutcome_of_not_decisive {o : Outcome α} (h : Outcome.isDecisive accept o = false) :
    ofOutcome accept shown o = .notYet (Outcome.seen shown o) := by
  cases o with
  | ok v =>
    have refused : accept v = false := h
    simp [ofOutcome, refused, Outcome.seen]
  | error f =>
    have again : f.isRetryable = true := by simpa [Outcome.isDecisive, Fault.isRetryable] using h
    simp [ofOutcome, again, Outcome.seen]

end Observation

namespace WaitSpec

variable [Timeline σ] {w : WaitSpec}

section OneEvaluation

variable (valid : w.validate = .ok ()) {operation : Act σ α} {accept : α → Bool}
  {shown : α → String} {s : σ}

/-- A decisive outcome is what the wait comes to. -/
theorem poll_of_decisive (elapsed : Nat)
    (h : Outcome.isDecisive accept (operation s).1 = true) :
    w.poll valid operation accept shown elapsed s = operation s := by
  rw [poll]
  rcases hop : operation s with ⟨f | v, s'⟩ <;> rw [hop] at h <;>
    simp only [Observation.ofOutcome_of_decisive h]

/-- Past the timeout an outcome that decides nothing ends the wait. -/
theorem poll_of_late {elapsed passed : Nat} {s' : σ}
    (h : Outcome.isDecisive accept (operation s).1 = false) (hs : (operation s).2 = s')
    (hp : elapsed + (Timeline.now s' - Timeline.now s) = passed) (late : w.timeout ≤ passed) :
    w.poll valid operation accept shown elapsed s =
      (.error (.timeout w.description (Outcome.seen shown (operation s).1) passed), s') := by
  rw [poll]
  rcases hop : operation s with ⟨outcome, u⟩
  rw [hop] at h hs
  cases hs
  simp only [Observation.ofOutcome_of_not_decisive h, hp, late, dite_true]

/-- Before it the wait sleeps and evaluates again. -/
theorem poll_of_early {elapsed passed : Nat} {s' : σ}
    (h : Outcome.isDecisive accept (operation s).1 = false) (hs : (operation s).2 = s')
    (hp : elapsed + (Timeline.now s' - Timeline.now s) = passed) (early : passed < w.timeout) :
    w.poll valid operation accept shown elapsed s =
      w.poll valid operation accept shown (passed + w.pause passed)
        (Timeline.sleep (w.pause passed) s') := by
  rw [poll]
  rcases hop : operation s with ⟨outcome, u⟩
  rw [hop] at h hs
  cases hs
  have notLate : ¬ w.timeout ≤ passed := by omega
  simp only [Observation.ofOutcome_of_not_decisive h, hp, notLate, dite_false]

end OneEvaluation

/-! ### The course of a wait -/

section Course

variable {operation : Act σ α} {accept : α → Bool} {shown : α → String} {s u : σ} {k elapsed : Nat}

/-- A valid wait starts with its first evaluation. -/
theorem waitForValue_of_valid (valid : w.validate = .ok ()) (operation : Act σ α) :
    w.waitForValue operation accept shown = w.poll valid operation accept shown 0 := by
  unfold waitForValue
  split
  · rfl
  · rename_i f hf
    rw [valid] at hf
    cases hf

/-- A wait that is refused does nothing. -/
theorem waitForValue_of_error {f : Fault} (refused : w.validate = .error f) (op : Act σ α) :
    w.waitForValue op accept shown = throw f := by
  unfold waitForValue
  split
  · rename_i valid
    rw [refused] at valid
    cases valid
  · rename_i f' h
    rw [refused] at h
    cases h
    rfl

/-- What has passed at the end of an evaluation, if `elapsed` has passed at its start. -/
def passed (operation : Act σ α) (elapsed : Nat) (u : σ) : Nat :=
  elapsed + (Timeline.now (operation u).2 - Timeline.now u)

/-- **Evaluations in vain**: some of them that decided nothing while there was time left, each with
the pause after it, lead from one state to another.  The numbers are how many there were and what
has passed. -/
inductive InVain (w : WaitSpec) (operation : Act σ α) (accept : α → Bool) (s : σ) :
    Nat → Nat → σ → Prop
  | start : InVain w operation accept s 0 0 s
  | again {k elapsed : Nat} {u : σ} (sofar : InVain w operation accept s k elapsed u)
      (undecided : Outcome.isDecisive accept (operation u).1 = false)
      (early : passed operation elapsed u < w.timeout) :
      InVain w operation accept s (k + 1)
        (passed operation elapsed u + w.pause (passed operation elapsed u))
        (Timeline.sleep (w.pause (passed operation elapsed u)) (operation u).2)

variable (valid : w.validate = .ok ())

include valid

/-- Some evaluation decides, or one of them ends after the timeout.  The induction is on what is
left of the timeout: a pause makes it less. -/
theorem InVain.exists_last (h : w.InVain operation accept s k elapsed u) :
    ∃ k elapsed u, w.InVain operation accept s k elapsed u ∧
      (Outcome.isDecisive accept (operation u).1 = true ∨
        w.timeout ≤ passed operation elapsed u) := by
  obtain ⟨left, hleft⟩ : ∃ left, w.timeout - elapsed = left := ⟨_, rfl⟩
  induction left using Nat.strongRecOn generalizing k elapsed u with
  | ind left ih =>
    cases decided : Outcome.isDecisive accept (operation u).1 with
    | true => exact ⟨k, elapsed, u, h, .inl decided⟩
    | false =>
      by_cases late : w.timeout ≤ passed operation elapsed u
      · exact ⟨k, elapsed, u, h, .inr late⟩
      · have early : passed operation elapsed u < w.timeout := Nat.lt_of_not_le late
        have interval : 0 < w.interval := interval_pos_of_validate valid (by omega)
        have onward : elapsed ≤ passed operation elapsed u := Nat.le_add_right _ _
        refine ih _ ?_ (h.again decided early) rfl
        rw [pause]
        omega

/-- After evaluations in vain there is another. -/
theorem InVain.poll_eq (h : w.InVain operation accept s k elapsed u) :
    w.poll valid operation accept shown 0 s = w.poll valid operation accept shown elapsed u := by
  induction h with
  | start => rfl
  | again sofar undecided early ih => rw [ih, poll_of_early valid undecided rfl rfl early, passed]

/-- An evaluation that decides is what the wait comes to. -/
theorem InVain.wait_of_decisive (h : w.InVain operation accept s k elapsed u)
    (decided : Outcome.isDecisive accept (operation u).1 = true) :
    w.waitForValue operation accept shown s = operation u := by
  rw [waitForValue_of_valid valid, h.poll_eq valid, poll_of_decisive valid _ decided]

/-- One that ends after the timeout is followed by nothing, unless it decides. -/
theorem InVain.wait_of_late (h : w.InVain operation accept s k elapsed u)
    (undecided : Outcome.isDecisive accept (operation u).1 = false)
    (late : w.timeout ≤ passed operation elapsed u) :
    w.waitForValue operation accept shown s =
      (.error (.timeout w.description (Outcome.seen shown (operation u).1)
        (passed operation elapsed u)), (operation u).2) := by
  rw [waitForValue_of_valid valid, h.poll_eq valid, poll_of_late valid undecided rfl rfl late,
    passed]

/-- **What a wait comes to**, evaluation by evaluation: the first that decides, or a timeout after
the first that ends too late. -/
theorem waitForValue_eq_iff (o : Outcome α) (s' : σ) :
    w.waitForValue operation accept shown s = (o, s') ↔
      ∃ k elapsed u, w.InVain operation accept s k elapsed u ∧
        ((Outcome.isDecisive accept (operation u).1 = true ∧ operation u = (o, s')) ∨
          (Outcome.isDecisive accept (operation u).1 = false ∧
            w.timeout ≤ passed operation elapsed u ∧
            (.error (.timeout w.description (Outcome.seen shown (operation u).1)
              (passed operation elapsed u)), (operation u).2) = (o, s'))) := by
  constructor
  · intro run
    obtain ⟨k, elapsed, u, sofar, decidedOrLate⟩ :=
      InVain.exists_last valid (.start : w.InVain operation accept s 0 0 s)
    refine ⟨k, elapsed, u, sofar, ?_⟩
    cases decided : Outcome.isDecisive accept (operation u).1 with
    | true => exact .inl ⟨rfl, (sofar.wait_of_decisive valid decided).symm.trans run⟩
    | false =>
      have late := decidedOrLate.resolve_left (ne_true_of_eq_false decided)
      exact .inr ⟨rfl, late, (sofar.wait_of_late valid decided late).symm.trans run⟩
  · rintro ⟨k, elapsed, u, sofar, ⟨decided, run⟩ | ⟨undecided, late, run⟩⟩
    · exact (sofar.wait_of_decisive valid decided).trans run
    · exact (sofar.wait_of_late valid undecided late).trans run

end Course

/-! ### What a wait preserves -/

section Preserved

variable (R : σ → σ → Prop) [IsPreorder σ R] {operation : Act σ α} {accept : α → Bool}
  {shown : α → String} {s u : σ} {k elapsed : Nat}

/-- Evaluations in vain lead where each of them leads, and every pause. -/
theorem InVain.rel
    (vain : ∀ s, Outcome.isDecisive accept (operation s).1 = false → R s (operation s).2)
    (slept : ∀ d s, R s (Timeline.sleep d s)) (h : w.InVain operation accept s k elapsed u) :
    R s u := by
  induction h with
  | start => exact refl_of R s
  | again sofar undecided early ih =>
    exact trans_of R ih (trans_of R (vain _ undecided) (slept _ _))

/-- **How a wait ends**: with an evaluation whose value is accepted, or with a failure and without
one.  `R` is whatever the other evaluations keep. -/
theorem waitForValue_cases
    (unaccepted : ∀ s, (∀ v, (operation s).1 = .ok v → accept v = false) → R s (operation s).2)
    (slept : ∀ d s, R s (Timeline.sleep d s)) (s : σ) :
    let run := w.waitForValue operation accept shown s
    (∃ v u, R s u ∧ (operation u).1 = .ok v ∧ accept v = true ∧
        run = (.ok v, (operation u).2)) ∨
      ∃ f s', R s s' ∧ run = (.error f, s') := by
  intro run
  cases valid : w.validate with
  | error f => exact .inr ⟨f, s, refl_of R s, congrFun (waitForValue_of_error valid operation) s⟩
  | ok _ =>
    have vain (s : σ) (undecided : Outcome.isDecisive accept (operation s).1 = false) :
        R s (operation s).2 := by
      refine unaccepted s fun v yielded => ?_
      rwa [yielded] at undecided
    have ran : w.waitForValue operation accept shown s = (run.1, run.2) := rfl
    obtain ⟨k, elapsed, u, sofar, ⟨decided, ended⟩ | ⟨undecided, -, ended⟩⟩ :=
      (waitForValue_eq_iff valid run.1 run.2).1 ran
    · have before : R s u := sofar.rel R vain slept
      have same : run = operation u := ended.symm
      rcases last : operation u with ⟨f | v, s'⟩
      · rw [last] at same
        refine .inr ⟨f, s', trans_of R before ?_, same⟩
        have onward := unaccepted u
        rw [last] at onward
        exact onward nofun
      · rw [last] at decided same
        exact .inl ⟨v, u, before, congrArg Prod.fst last, decided, by rw [same, last]⟩
    · exact .inr ⟨_, _, trans_of R (sofar.rel R vain slept) (vain u undecided), ended.symm⟩

/-- **Where every evaluation leads and every sleep, a wait leads as well.** -/
theorem rel_waitForValue (evaluated : ∀ s, R s (operation s).2)
    (slept : ∀ d s, R s (Timeline.sleep d s)) (s : σ) :
    R s (w.waitForValue operation accept shown s).2 := by
  rcases @waitForValue_cases _ _ _ w R _ operation accept shown (fun s _ => evaluated s) slept
    s with ⟨v, u, before, -, -, ended⟩ | ⟨f, s', before, ended⟩
  · rw [ended]
    exact trans_of R before (evaluated u)
  · rw [ended]
    exact before

end Preserved

end WaitSpec

end AccessHarness
