import AccessHarness.Proofs.Wait.Course
import Mathlib.Algebra.GroupWithZero.Nat

/-!
# The schedule of a wait

`WaitSpec.poll` decides after every evaluation whether to stop, to give up or to sleep, and
how long; nothing in it says beforehand *when* the evaluations take place or how many there
are.  This file gives that closed form, for evaluations that take no time:

* `WaitSpec.due k` — the time of evaluation `k`, `min (k * interval) timeout`;
* `WaitSpec.rounds` — how many evaluations fit, `⌈timeout / interval⌉ + 1`, or one where
  there is nothing to wait for;
* `WaitSpec.reference` — what a wait comes to: the first decisive outcome among the rounds,
  or a timeout that quotes the last outcome of all.

`WaitSpec.wait_eq_reference` says that the three kinds of wait are their reference.

### The logbook

A `Logbook` keeps every start of an evaluation and every pause, so the equation is about the
whole course of a wait and not only about its result.  An evaluation may be given a cost;
the closed form is the case of cost zero.

### What is load-bearing

Evaluations that take no time are each on time (`WaitSpec.InVain.on_time`), on every timeline, so
the course of a wait is one of rounds (`WaitSpec.waitForValue_eq_iff_of_instant`); logbooks are one
timeline.  That the last pause is cut short is the one fact about arithmetic,
`timeout_le_due_iff`: the timeout is reached exactly at the last round, whether or not the interval
divides it.
-/

namespace AccessHarness

variable {σ α : Type}

namespace WaitSpec

variable [Timeline σ] {w : WaitSpec}

/-! ### When evaluations are due -/

/-- When evaluation `k` is due, counted from the start of the wait. -/
def due (w : WaitSpec) (k : Nat) : Nat := min (k * w.interval) w.timeout

/-- **How many evaluations a wait has at most**: one at the start and one after each pause. -/
def rounds (w : WaitSpec) : Nat :=
  if w.timeout = 0 then 1 else (w.timeout + w.interval - 1) / w.interval + 1

@[simp] theorem due_zero (w : WaitSpec) : w.due 0 = 0 := by simp [due]

theorem due_le_timeout (w : WaitSpec) (k : Nat) : w.due k ≤ w.timeout := Nat.min_le_right ..

theorem rounds_pos (w : WaitSpec) : 0 < w.rounds := by
  unfold rounds
  split
  · exact Nat.one_pos
  · exact Nat.succ_pos _

/-- **The timeout is reached at the last round and not before.** -/
theorem timeout_le_due_iff (valid : w.validate = .ok ()) (k : Nat) :
    w.timeout ≤ w.due k ↔ w.rounds ≤ k + 1 := by
  unfold due rounds
  by_cases ht : w.timeout = 0
  · simp [ht]
  · have hi : 0 < w.interval := interval_pos_of_validate valid ht
    -- rounding up is the adjoint of multiplying
    have covered : (w.timeout + w.interval - 1) / w.interval ≤ k ↔
        w.timeout ≤ k * w.interval := by
      rw [← Nat.lt_add_one_iff, Nat.div_lt_iff_lt_mul hi, Nat.add_mul, Nat.one_mul]
      omega
    rw [if_neg ht, Nat.le_min, and_iff_left (Nat.le_refl _), Nat.add_le_add_iff_right, covered]

/-- A pause leads from one due time to the next. -/
theorem due_add_pause (w : WaitSpec) (k : Nat) :
    w.due k + w.pause (w.due k) = w.due (k + 1) := by
  unfold due pause
  rw [Nat.add_mul, Nat.one_mul]
  omega

theorem pause_due (w : WaitSpec) (k : Nat) : w.pause (w.due k) = w.due (k + 1) - w.due k := by
  have := w.due_add_pause k
  omega

/-! ### Evaluations that take no time -/

section Instant

variable {operation : Act σ α} {accept : α → Bool} {shown : α → String} {s u : σ} {k elapsed : Nat}
  (valid : w.validate = .ok ()) (instant : ∀ s, Timeline.now (operation s).2 = Timeline.now s)

include instant

theorem passed_of_instant : passed operation elapsed u = elapsed := by
  rw [passed, instant, Nat.sub_self, Nat.add_zero]

include valid

/-- **Each of them is on time**, and there is a round for it. -/
theorem InVain.on_time (h : w.InVain operation accept s k elapsed u) :
    elapsed = w.due k ∧ k < w.rounds := by
  induction h with
  | start => exact ⟨w.due_zero.symm, w.rounds_pos⟩
  | @again k elapsed u sofar undecided early ih =>
    obtain ⟨rfl, room⟩ := ih
    rw [passed_of_instant instant] at early ⊢
    refine ⟨w.due_add_pause k, ?_⟩
    have := timeout_le_due_iff valid k
    omega

/-- As long as there is a round for it, there is another. -/
theorem InVain.again_on_time (h : w.InVain operation accept s k (w.due k) u)
    (undecided : Outcome.isDecisive accept (operation u).1 = false) (room : k + 1 < w.rounds) :
    w.InVain operation accept s (k + 1) (w.due (k + 1))
      (Timeline.sleep (w.due (k + 1) - w.due k) (operation u).2) := by
  have early : w.due k < w.timeout := by
    have := timeout_le_due_iff valid k
    omega
  have next := h.again undecided (by rwa [passed_of_instant instant])
  rwa [passed_of_instant instant, due_add_pause, pause_due] at next

/-- **What such a wait comes to**, round by round: the first that decides, or a timeout after the
last. -/
theorem waitForValue_eq_iff_of_instant (o : Outcome α) (s' : σ) :
    w.waitForValue operation accept shown s = (o, s') ↔
      ∃ k u, w.InVain operation accept s k (w.due k) u ∧
        ((Outcome.isDecisive accept (operation u).1 = true ∧ operation u = (o, s')) ∨
          (Outcome.isDecisive accept (operation u).1 = false ∧ k + 1 = w.rounds ∧
            (.error (.timeout w.description (Outcome.seen shown (operation u).1) w.timeout),
              (operation u).2) = (o, s'))) := by
  have last {k : Nat} (room : k < w.rounds) : w.timeout ≤ w.due k ↔ k + 1 = w.rounds := by
    have := timeout_le_due_iff valid k
    omega
  have atEnd {k : Nat} (late : w.timeout ≤ w.due k) : w.due k = w.timeout :=
    Nat.le_antisymm (w.due_le_timeout k) late
  rw [waitForValue_eq_iff valid]
  simp only [passed_of_instant instant]
  constructor
  · rintro ⟨k, elapsed, u, sofar, ended⟩
    obtain ⟨rfl, room⟩ := sofar.on_time valid instant
    refine ⟨k, u, sofar, ended.imp_right ?_⟩
    rintro ⟨undecided, late, run⟩
    rw [atEnd late] at run
    exact ⟨undecided, (last room).1 late, run⟩
  · rintro ⟨k, u, sofar, ended⟩
    obtain ⟨-, room⟩ := sofar.on_time valid instant
    refine ⟨k, _, u, sofar, ended.imp_right ?_⟩
    rintro ⟨undecided, final, run⟩
    have late := (last room).2 final
    rw [← atEnd late] at run
    exact ⟨undecided, late, run⟩

end Instant

end WaitSpec

/-! ### Logbooks -/

/-- **The course of a wait**: when each evaluation started and how long each pause was, in
the order of time, and what time it is. -/
structure Logbook where
  starts : List Nat
  pauses : List Nat
  clock : Nat
  deriving DecidableEq, Repr

namespace Logbook

/-- Before the first evaluation. -/
def blank : Logbook := ⟨[], [], 0⟩

instance : Timeline Logbook where
  now l := l.clock
  sleep d l := { l with pauses := l.pauses ++ [d], clock := l.clock + d }

/-- The time spent in pauses. -/
def slept (l : Logbook) : Nat := l.pauses.sum

/-- An operation whose outcomes are given in advance, and the time each evaluation takes;
every evaluation is entered in the logbook. -/
def operation (outcomes : Nat → Outcome α) (cost : Nat → Nat) : Act Logbook α := fun l =>
  (outcomes l.starts.length,
    { l with starts := l.starts ++ [l.clock], clock := l.clock + cost l.starts.length })

end Logbook

namespace WaitSpec

/-- The logbook after `n` evaluations that were all on time. -/
def schedule (w : WaitSpec) (n : Nat) : Logbook where
  starts := (List.range n).map w.due
  pauses := (List.range (n - 1)).map fun k => w.due (k + 1) - w.due k
  clock := w.due (n - 1)

/-- **What a wait comes to**, if evaluations take no time: the first decisive outcome among
the rounds, with the logbook up to it; where there is none, a timeout that quotes the last
outcome. -/
def reference (w : WaitSpec) (outcomes : Nat → Outcome α) (accept : α → Bool)
    (shown : α → String) : Outcome α × Logbook :=
  match (List.range w.rounds).find? fun k => Outcome.isDecisive accept (outcomes k) with
  | some k => (outcomes k, w.schedule (k + 1))
  | none =>
    (.error (.timeout w.description (Outcome.seen shown (outcomes (w.rounds - 1))) w.timeout),
      w.schedule w.rounds)

/-- The pauses of a schedule add up to the due time of its last evaluation. -/
theorem slept_schedule (w : WaitSpec) (n : Nat) : (w.schedule n).slept = w.due (n - 1) := by
  unfold schedule Logbook.slept
  induction n - 1 with
  | zero => simp
  | succ k ih =>
    have step := w.due_add_pause k
    have pause := w.pause_due k
    rw [List.range_succ, List.map_append, List.sum_append, ih]
    simp only [List.map_cons, List.map_nil, List.sum_cons, List.sum_nil]
    omega

variable {w : WaitSpec} {outcomes : Nat → Outcome α} {accept : α → Bool} {shown : α → String}

/-- The first decisive outcome is the reference. -/
theorem reference_of_decisive {k : Nat} (hk : k < w.rounds)
    (h : Outcome.isDecisive accept (outcomes k) = true)
    (undecided : ∀ j < k, Outcome.isDecisive accept (outcomes j) = false) :
    w.reference outcomes accept shown = (outcomes k, w.schedule (k + 1)) := by
  have first : (List.range w.rounds).find? (fun k => Outcome.isDecisive accept (outcomes k)) =
      some k := by
    rw [List.find?_range_eq_some]
    refine ⟨h, List.mem_range.2 hk, ?_⟩
    intro j hj
    simp [undecided j hj]
  rw [reference, first]

/-- Without a decisive outcome the reference is a timeout. -/
theorem reference_of_undecided
    (undecided : ∀ j < w.rounds, Outcome.isDecisive accept (outcomes j) = false) :
    w.reference outcomes accept shown =
      (.error (.timeout w.description (Outcome.seen shown (outcomes (w.rounds - 1))) w.timeout),
        w.schedule w.rounds) := by
  have nowhere : (List.range w.rounds).find? (fun k => Outcome.isDecisive accept (outcomes k)) =
      none := by
    rw [List.find?_range_eq_none]
    intro j hj
    simp [undecided j hj]
  rw [reference, nowhere]

/-- The logbook when evaluation `k` is about to start on time. -/
private def before (w : WaitSpec) (k : Nat) : Logbook where
  starts := (List.range k).map w.due
  pauses := (List.range k).map fun j => w.due (j + 1) - w.due j
  clock := w.due k

/-- An evaluation on time that takes no time. -/
private theorem operation_before (k : Nat) :
    Logbook.operation outcomes (fun _ => 0) (before w k) = (outcomes k, w.schedule (k + 1)) := by
  simp [Logbook.operation, before, schedule, List.range_succ]

/-- After a pause the next evaluation is on time. -/
private theorem sleep_schedule (w : WaitSpec) (k : Nat) :
    Timeline.sleep (w.pause (w.due k)) (w.schedule (k + 1)) = before w (k + 1) := by
  have next := w.due_add_pause k
  have pause := w.pause_due k
  simp only [Timeline.sleep, schedule, before, Nat.add_sub_cancel, List.range_succ,
    List.map_append, List.map_cons, List.map_nil]
  rw [next, pause]

/-- Evaluations in a logbook take no time unless they are given some. -/
private theorem now_operation (l : Logbook) :
    Timeline.now (Logbook.operation outcomes (fun _ => 0) l).2 = Timeline.now l := rfl

/-- Outcomes that decide nothing lead on time to the next evaluation. -/
private theorem inVain_before (valid : w.validate = .ok ()) {k : Nat} (room : k < w.rounds)
    (undecided : ∀ j < k, Outcome.isDecisive accept (outcomes j) = false) :
    w.InVain (Logbook.operation outcomes fun _ => 0) accept (before w 0) k (w.due k)
      (before w k) := by
  induction k with
  | zero =>
    rw [due_zero]
    exact .start
  | succ k ih =>
    obtain ⟨earlier, this⟩ := Nat.forall_lt_succ_right.1 undecided
    have next := (ih (by omega) earlier).again_on_time valid now_operation
      (by rwa [operation_before]) room
    rwa [operation_before, ← pause_due, sleep_schedule] at next

/-- The evaluations that are given in advance lead to the reference. -/
private theorem wait_before (valid : w.validate = .ok ()) :
    w.waitForValue (Logbook.operation outcomes fun _ => 0) accept shown (before w 0) =
      w.reference outcomes accept shown := by
  cases first : (List.range w.rounds).find? fun k => Outcome.isDecisive accept (outcomes k) with
  | some k =>
    simp only [List.find?_range_eq_some, List.mem_range, Bool.not_eq_eq_eq_not,
      Bool.not_true] at first
    obtain ⟨decided, room, undecided⟩ := first
    rw [reference_of_decisive room decided undecided, (inVain_before valid room
      undecided).wait_of_decisive valid (by rwa [operation_before]), operation_before]
  | none =>
    simp only [List.find?_range_eq_none, Bool.not_eq_eq_eq_not, Bool.not_true] at first
    have last : w.rounds - 1 + 1 = w.rounds := Nat.sub_add_cancel w.rounds_pos
    have earlier : ∀ j < w.rounds - 1, Outcome.isDecisive accept (outcomes j) = false :=
      fun j hj => first j (by omega)
    have final : Outcome.isDecisive accept (outcomes (w.rounds - 1)) = false :=
      first _ (by omega)
    have late : w.timeout ≤ w.due (w.rounds - 1) := (timeout_le_due_iff valid _).2 (by omega)
    have atEnd : w.due (w.rounds - 1) = w.timeout := Nat.le_antisymm (w.due_le_timeout _) late
    rw [reference_of_undecided first, (inVain_before valid (by omega) earlier).wait_of_late valid
      (by rwa [operation_before]) (by rwa [passed_of_instant now_operation]),
      passed_of_instant now_operation, operation_before, last, atEnd]

/-- **A wait is its reference.**  With evaluations that take no time, waiting for an accepted
value comes to the first decisive outcome or to a timeout, at the times of the schedule;
waiting for one value, or for `true`, is the case of equality.  The pauses of a schedule add
up to the time of its last evaluation. -/
theorem wait_eq_reference (w : WaitSpec) (valid : w.validate = .ok ()) :
    (∀ {α : Type} (outcomes : Nat → Outcome α) (accept : α → Bool) (shown : α → String),
      w.waitForValue (Logbook.operation outcomes fun _ => 0) accept shown Logbook.blank =
        w.reference outcomes accept shown) ∧
    (∀ {α : Type} [DecidableEq α] (expected : α) (outcomes : Nat → Outcome α)
        (shown : α → String),
      w.waitFor expected (Logbook.operation outcomes fun _ => 0) shown Logbook.blank =
        w.reference outcomes (fun v => v == expected) shown) ∧
    (∀ outcomes : Nat → Outcome Bool,
      w.waitUntil (Logbook.operation outcomes fun _ => 0) Logbook.blank =
        match w.reference outcomes (fun v => v == true) fun b => if b then "true" else "false" with
        | (.ok _, l) => (.ok (), l)
        | (.error f, l) => (.error f, l)) ∧
    ∀ n, (w.schedule n).slept = w.due (n - 1) := by
  have value {α : Type} (outcomes : Nat → Outcome α) (accept : α → Bool) (shown : α → String) :
      w.waitForValue (Logbook.operation outcomes fun _ => 0) accept shown Logbook.blank =
        w.reference outcomes accept shown := by
    have blank : Logbook.blank = before w 0 := by simp [Logbook.blank, before]
    rw [blank, wait_before valid]
  refine ⟨value, ?_, ?_, w.slept_schedule⟩
  · intro α _ expected outcomes shown
    exact value outcomes _ shown
  · intro outcomes
    rw [← value]
    simp only [waitUntil, waitFor, bind, ExceptT.bind, ExceptT.mk, StateT.bind]
    rcases w.waitForValue (Logbook.operation outcomes fun _ => 0) (fun v => v == true)
      (fun b => if b then "true" else "false") Logbook.blank with ⟨f | b, l⟩ <;> rfl

/-- Five units in pauses of two: the last pause is cut short, and what was missing at first
is found by the evaluation at the very end. -/
theorem wait_eq_reference_cut_short :
    (WaitSpec.mk "plugin" 5 2).validate = .ok () ∧
      (WaitSpec.mk "plugin" 5 2).waitForValue
        (Logbook.operation
          (fun k => if k = 0 then .error (.notFound "plugin") else .ok k) fun _ => 0)
        (fun v => 3 ≤ v) Nat.repr Logbook.blank = (.ok 3, ⟨[0, 2, 4, 5], [2, 2, 1], 5⟩) := by
  have valid : (WaitSpec.mk "plugin" 5 2).validate = .ok () := rfl
  exact ⟨valid, ((wait_eq_reference _ valid).1 _ _ _).trans rfl⟩

end WaitSpec

end AccessHarness
