import AccessHarness.Proofs.Wait.Schedule

/-!
# How long a wait can last

The schedule of a wait is known beforehand only if evaluations take no time.  However long they
take, a wait is bounded: `WaitSpec.wait_bounded` says how many evaluations there are, when the last
of them can start, that every sleep is positive and fits into what is left, and how late a timeout
can be reported.

### Watching a wait

An operation may be anything that acts on a state which keeps time.  It is therefore *watched*
(`Watched.operation`): a note is made of each evaluation and of each sleep, next to the state of
the operation itself, and `WaitSpec.poll_watched` says that taking notes changes nothing.

### What is load-bearing

Evaluation `k` starts no earlier than the schedule has it (`WaitSpec.Underway.due`).  A slow
evaluation delays all that follow, so nothing can be said about when they take place, but none of
them is early; the schedule reaches the timeout in its last round, and so does the wait by then.
-/

namespace AccessHarness

variable {σ α : Type}

/-- One evaluation of an operation: when it started and stopped, and what came of it. -/
structure Evaluation (α : Type) where
  start : Nat
  stop : Nat
  outcome : Outcome α

/-- One sleep: when it started, and how long it was. -/
structure Nap where
  start : Nat
  length : Nat

/-- **A state under observation**, with all evaluations and sleeps so far, in the order of time. -/
structure Watched (σ α : Type) where
  state : σ
  evaluations : List (Evaluation α)
  naps : List Nap

namespace Watched

/-- Before the first evaluation. -/
def begin (s : σ) : Watched σ α := ⟨s, [], []⟩

variable [Timeline σ]

instance : Timeline (Watched σ α) where
  now x := Timeline.now x.state
  sleep d x :=
    { x with
      state := Timeline.sleep d x.state
      naps := x.naps ++ [⟨Timeline.now x.state, d⟩] }

/-- An operation that is watched. -/
def operation (op : Act σ α) : Act (Watched σ α) α := fun x =>
  ((op x.state).1,
    { x with
      state := (op x.state).2
      evaluations := x.evaluations ++
        [⟨Timeline.now x.state, Timeline.now (op x.state).2, (op x.state).1⟩] })

theorem length_operation (op : Act σ α) (x : Watched σ α) :
    (operation op x).2.evaluations.length = x.evaluations.length + 1 :=
  List.length_append

end Watched

namespace WaitSpec

variable [Timeline σ] {w : WaitSpec} {op : Act σ α} {accept : α → Bool} {shown : α → String}

/-- Before the timeout there is something to sleep for. -/
theorem pause_pos (valid : w.validate = .ok ()) {passed : Nat} (early : passed < w.timeout) :
    0 < w.pause passed := by
  have := interval_pos_of_validate valid (by omega)
  unfold pause
  omega

/-- A pause does not lead past the timeout. -/
theorem add_pause_le (w : WaitSpec) {passed : Nat} (early : passed < w.timeout) :
    passed + w.pause passed ≤ w.timeout := by
  unfold pause
  omega

/-- Who is not early for one evaluation is not early for the next. -/
theorem due_succ_le (w : WaitSpec) {k passed : Nat} (onSchedule : w.due k ≤ passed) :
    w.due (k + 1) ≤ passed + w.pause passed := by
  have next := w.due_add_pause k
  have limit := w.due_le_timeout (k + 1)
  unfold pause at *
  omega

/-- **Watching changes nothing.**  The induction is on the time that is left. -/
theorem poll_watched (valid : w.validate = .ok ()) (elapsed : Nat) (x : Watched σ α) :
    w.poll valid op accept shown elapsed x.state =
      ((w.poll valid (Watched.operation op) accept shown elapsed x).1,
        (w.poll valid (Watched.operation op) accept shown elapsed x).2.state) := by
  induction hleft : w.timeout - elapsed using Nat.strongRecOn generalizing elapsed x with
  | ind left ih =>
    cases h : Outcome.isDecisive accept (op x.state).1 with
    | true =>
      have watched : Outcome.isDecisive accept (Watched.operation op x).1 = true := h
      rw [poll_of_decisive valid elapsed h, poll_of_decisive valid elapsed watched]
      rfl
    | false =>
      have watched : Outcome.isDecisive accept (Watched.operation op x).1 = false := h
      obtain ⟨passed, hp⟩ : ∃ passed,
          elapsed + (Timeline.now (op x.state).2 - Timeline.now x.state) = passed := ⟨_, rfl⟩
      rcases Nat.lt_or_ge passed w.timeout with early | late
      · have positive := pause_pos valid early
        rw [poll_of_early valid h rfl hp early, poll_of_early valid watched rfl hp early]
        refine ih (w.timeout - (passed + w.pause passed)) ?_ _
          (Timeline.sleep (w.pause passed) (Watched.operation op x).2) rfl
        omega
      · rw [poll_of_late valid h rfl hp late, poll_of_late valid watched rfl hp late]
        rfl

/-- **Between two evaluations** of a wait that began at a given time: what has been noted keeps
to the timeout, and the next evaluation is neither early nor late. -/
structure Underway (w : WaitSpec) (begun : Nat) (x : Watched σ α) : Prop where
  room : x.evaluations.length < w.rounds
  due : begun + w.due x.evaluations.length ≤ Timeline.now x.state
  inTime : Timeline.now x.state ≤ begun + w.timeout
  started : ∀ e ∈ x.evaluations, begun ≤ e.start ∧ e.start ≤ begun + w.timeout
  slept : ∀ n ∈ x.naps, ∃ elapsed < w.timeout, n.start = begun + elapsed ∧
    n.length = min w.interval (w.timeout - elapsed) ∧ 0 < n.length

/-- **What a wait comes to, and how long it took.** -/
structure Bounded (w : WaitSpec) (begun : Nat) (accept : α → Bool) (shown : α → String)
    (run : Outcome α × Watched σ α) : Prop where
  /-- There is an evaluation, and there are not too many. -/
  rounds : 0 < run.2.evaluations.length ∧ run.2.evaluations.length ≤ w.rounds
  /-- None starts later than the timeout. -/
  started : ∀ e ∈ run.2.evaluations, begun ≤ e.start ∧ e.start ≤ begun + w.timeout
  /-- There is time left whenever the wait sleeps, and it sleeps for some of it. -/
  slept : ∀ n ∈ run.2.naps, ∃ elapsed < w.timeout, n.start = begun + elapsed ∧
    n.length = min w.interval (w.timeout - elapsed) ∧ 0 < n.length
  /-- The last evaluation decides, or it ends at the timeout or after it. -/
  ended : ∃ e, run.2.evaluations.getLast? = some e ∧
    ((Outcome.isDecisive accept e.outcome = true ∧ run.1 = e.outcome) ∨
      (Outcome.isDecisive accept e.outcome = false ∧
        ∃ elapsed, run.1 =
            .error (.timeout w.description (Outcome.seen shown e.outcome) elapsed) ∧
          e.stop = begun + elapsed ∧ w.timeout ≤ elapsed ∧
            elapsed ≤ w.timeout + (e.stop - e.start)))

/-- A wait is underway before its first evaluation. -/
theorem underway_begin (w : WaitSpec) (s : σ) :
    w.Underway (Timeline.now s) (Watched.begin s : Watched σ α) where
  room := w.rounds_pos
  due := by simp [Watched.begin]
  inTime := Nat.le_add_right _ _
  started e mem := absurd mem List.not_mem_nil
  slept n mem := absurd mem List.not_mem_nil

section OneEvaluation

variable {begun : Nat} {x : Watched σ α} (u : w.Underway begun x)

include u

/-- One more evaluation starts in time. -/
private theorem Underway.started_operation :
    ∀ e ∈ (Watched.operation op x).2.evaluations,
      begun ≤ e.start ∧ e.start ≤ begun + w.timeout := by
  intro e mem
  rcases List.mem_append.1 mem with earlier | this
  · exact u.started e earlier
  · obtain rfl := List.mem_singleton.1 this
    exact ⟨Nat.le_trans (Nat.le_add_right _ _) u.due, u.inTime⟩

/-- **An evaluation that decides nothing and ends in time is followed by another.** -/
private theorem Underway.next (valid : w.validate = .ok ())
    (exact : ∀ d (s : σ), Timeline.now (Timeline.sleep d s) = Timeline.now s + d)
    (forward : Timeline.now x.state ≤ Timeline.now (op x.state).2) {passed : Nat}
    (hp : Timeline.now (op x.state).2 = begun + passed) (early : passed < w.timeout) :
    w.Underway begun (Timeline.sleep (w.pause passed) (Watched.operation op x).2) := by
  -- what was not early before the evaluation is not early after it
  have onSchedule : w.due x.evaluations.length ≤ passed := by
    have := u.due
    omega
  have last := timeout_le_due_iff valid x.evaluations.length
  have clock : Timeline.now (Timeline.sleep (w.pause passed) (op x.state).2) =
      begun + (passed + w.pause passed) := by
    rw [exact, hp, Nat.add_assoc]
  exact {
    room := by
      show (Watched.operation op x).2.evaluations.length < w.rounds
      rw [Watched.length_operation]
      omega
    due := by
      show begun + w.due (Watched.operation op x).2.evaluations.length ≤
        Timeline.now (Timeline.sleep (w.pause passed) (op x.state).2)
      rw [Watched.length_operation, clock]
      exact Nat.add_le_add_left (w.due_succ_le onSchedule) begun
    inTime := by
      have := w.add_pause_le early
      show Timeline.now (Timeline.sleep (w.pause passed) (op x.state).2) ≤ begun + w.timeout
      omega
    started := u.started_operation
    slept := by
      intro n mem
      rcases List.mem_append.1 mem with earlier | this
      · exact u.slept n earlier
      · obtain rfl := List.mem_singleton.1 this
        exact ⟨passed, early, hp, rfl, pause_pos valid early⟩ }

/-- An evaluation that decides ends the wait. -/
private theorem Underway.bounded_of_decisive
    (h : Outcome.isDecisive accept (op x.state).1 = true) :
    w.Bounded begun accept shown (Watched.operation op x) where
  rounds := by
    rw [Watched.length_operation]
    exact ⟨Nat.succ_pos _, u.room⟩
  started := u.started_operation
  slept := u.slept
  ended := ⟨_, List.getLast?_concat, .inl ⟨h, rfl⟩⟩

/-- So does one that ends too late. -/
private theorem Underway.bounded_of_late
    (forward : Timeline.now x.state ≤ Timeline.now (op x.state).2)
    (h : Outcome.isDecisive accept (op x.state).1 = false) {passed : Nat}
    (hp : Timeline.now (op x.state).2 = begun + passed) (late : w.timeout ≤ passed) :
    w.Bounded begun accept shown
      (.error (.timeout w.description (Outcome.seen shown (op x.state).1) passed),
        (Watched.operation op x).2) where
  rounds := by
    rw [Watched.length_operation]
    exact ⟨Nat.succ_pos _, u.room⟩
  started := u.started_operation
  slept := u.slept
  ended := by
    have started := u.inTime
    refine ⟨_, List.getLast?_concat, .inr ⟨h, passed, rfl, hp, late, ?_⟩⟩
    -- the evaluation started in time, so what is beyond the timeout is its own
    show passed ≤ w.timeout + (Timeline.now (op x.state).2 - Timeline.now x.state)
    omega

end OneEvaluation

/-- From any evaluation on a wait is bounded.  The induction is on the rounds that are left. -/
private theorem bounded_poll (valid : w.validate = .ok ())
    (exact : ∀ d (s : σ), Timeline.now (Timeline.sleep d s) = Timeline.now s + d)
    (forward : ∀ s, Timeline.now s ≤ Timeline.now (op s).2) {begun elapsed : Nat}
    {x : Watched σ α} (u : w.Underway begun x) (now : Timeline.now x.state = begun + elapsed) :
    w.Bounded begun accept shown
      (w.poll valid (Watched.operation op) accept shown elapsed x) := by
  induction hleft : w.rounds - x.evaluations.length generalizing elapsed x with
  | zero =>
    have := u.room
    omega
  | succ left ih =>
    have onward := forward x.state
    cases h : Outcome.isDecisive accept (Watched.operation op x).1 with
    | true =>
      rw [poll_of_decisive valid elapsed h]
      exact u.bounded_of_decisive h
    | false =>
      obtain ⟨passed, hp⟩ : ∃ passed,
          elapsed + (Timeline.now (op x.state).2 - Timeline.now x.state) = passed := ⟨_, rfl⟩
      have stop : Timeline.now (op x.state).2 = begun + passed := by omega
      rcases Nat.lt_or_ge passed w.timeout with early | late
      · rw [poll_of_early valid h rfl hp early]
        have clock : Timeline.now (Timeline.sleep (w.pause passed) (op x.state).2) =
            begun + (passed + w.pause passed) := by
          rw [exact, stop, Nat.add_assoc]
        refine ih (u.next valid exact onward stop early) clock ?_
        show w.rounds - (Watched.operation op x).2.evaluations.length = left
        rw [Watched.length_operation]
        omega
      · rw [poll_of_late valid h rfl hp late]
        exact u.bounded_of_late onward h stop late

/-- **A wait is bounded however long its evaluations take.**  Sleeps take what they ask for, and
no evaluation turns the clock back.  A wait that is refused evaluates nothing; any other is
`Bounded`, and of a timeout of zero there is exactly one evaluation. -/
theorem wait_bounded (w : WaitSpec)
    (exact : ∀ d (s : σ), Timeline.now (Timeline.sleep d s) = Timeline.now s + d)
    (op : Act σ α) (forward : ∀ s, Timeline.now s ≤ Timeline.now (op s).2)
    (accept : α → Bool) (shown : α → String) (s : σ) :
    let run := w.waitForValue (Watched.operation op) accept shown (.begin s)
    w.waitForValue op accept shown s = (run.1, run.2.state) ∧
    (∀ f, w.validate = .error f → run = (.error f, .begin s)) ∧
    (w.validate = .ok () → w.Bounded (Timeline.now s) accept shown run) ∧
    (w.timeout = 0 → run.2.evaluations.length = 1) := by
  have bounded (valid : w.validate = .ok ()) : w.Bounded (Timeline.now s) accept shown
      (w.waitForValue (Watched.operation op) accept shown (.begin s)) := by
    rw [waitForValue_of_valid valid]
    exact bounded_poll valid exact forward (w.underway_begin s) rfl
  refine ⟨?_, ?_, bounded, ?_⟩
  · cases hv : w.validate with
    | ok valid =>
      rw [waitForValue_of_valid hv, waitForValue_of_valid hv]
      exact poll_watched hv 0 (.begin s)
    | error f =>
      rw [waitForValue_of_error hv, waitForValue_of_error hv]
      rfl
  · intro f refused
    rw [waitForValue_of_error refused]
    rfl
  · intro zero
    have valid : w.validate = .ok () := (w.validate_eq_ok_iff).2 (.inl zero)
    have rounds := (bounded valid).rounds
    have one : w.rounds = 1 := if_pos zero
    omega

/-- Evaluations of four units each, five units to wait: the second starts at the very end. -/
theorem wait_bounded_slow :
    let w : WaitSpec := ⟨"plugin", 5, 2⟩
    let op : Act Logbook Nat := Logbook.operation (fun k => .ok k) fun _ => 4
    let shown : Nat → String := fun _ => "nothing"
    let run := w.waitForValue (Watched.operation op) (fun v => 3 ≤ v) shown (.begin .blank)
    w.validate = .ok () ∧ w.Bounded 0 (fun v => 3 ≤ v) shown run ∧
      run.1 = .error (.timeout "plugin" "nothing" 9) := by
  intro w op shown run
  have valid : w.validate = .ok () := rfl
  have clock : ∀ l, Timeline.now l ≤ Timeline.now (op l).2 := fun l => Nat.le_add_right _ _
  have bounded := wait_bounded w (fun _ _ => rfl) op clock (fun v => 3 ≤ v) shown .blank
  refine ⟨valid, bounded.2.2.1 valid, ?_⟩
  -- four units have passed after the first evaluation, and nine after the second
  let x := Timeline.sleep 1 (Watched.operation op (.begin .blank)).2
  have first : w.poll valid (Watched.operation op) (fun v => 3 ≤ v) shown 0 (.begin .blank) =
      w.poll valid (Watched.operation op) (fun v => 3 ≤ v) shown 5 x :=
    poll_of_early valid rfl rfl rfl (by decide)
  have passed : 5 + (Timeline.now (Watched.operation op x).2 - Timeline.now x) = 9 := rfl
  have second : w.poll valid (Watched.operation op) (fun v => 3 ≤ v) shown 5 x =
      (.error (.timeout "plugin" "nothing" 9), (Watched.operation op x).2) :=
    poll_of_late valid rfl rfl passed (by decide)
  show (w.waitForValue (Watched.operation op) _ _ (.begin .blank)).1 = _
  rw [waitForValue_of_valid valid, first, second]

end WaitSpec

end AccessHarness
