import AccessHarness.Session.Transcript

/-!
# What is left open

Some events open something and others close it, and a history may end with something left open.

* `Transcript.Outstanding` — something was opened, and nothing closed it since.
* `Transcript.outstanding_append` — what that comes to for two stretches of a history.
* `Transcript.Outstanding.not_reverse` — the last word is had by one of the two kinds only.

The latest event of a transcript stands first, so what happened since is in front.
-/

namespace AccessHarness.Transcript

/-- **What is outstanding**: it was opened, and not closed since. -/
def Outstanding (opens closes : Event → Prop) (during : Transcript) : Prop :=
  ∃ later x earlier, during = later ++ x :: earlier ∧ opens x ∧ ∀ y ∈ later, ¬ closes y

variable {opens closes : Event → Prop}

/-- Where nothing is opened nothing is outstanding. -/
theorem not_outstanding_of_forall {during : Transcript} (never : ∀ x ∈ during, ¬ opens x) :
    ¬ Outstanding opens closes during := by
  rintro ⟨later, x, earlier, rfl, opened, -⟩
  exact never x (List.mem_append_right _ List.mem_cons_self) opened

/-- Where nothing is closed everything is outstanding. -/
theorem outstanding_iff_exists {during : Transcript} (never : ∀ x ∈ during, ¬ closes x) :
    Outstanding opens closes during ↔ ∃ x ∈ during, opens x := by
  constructor
  · rintro ⟨later, x, earlier, rfl, opened, -⟩
    exact ⟨x, List.mem_append_right _ List.mem_cons_self, opened⟩
  · rintro ⟨x, mem, opened⟩
    obtain ⟨later, earlier, split⟩ := List.append_of_mem mem
    refine ⟨later, x, earlier, split, opened, ?_⟩
    intro y late
    apply never
    rw [split]
    exact List.mem_append_left _ late

theorem outstanding_singleton {x : Event} : Outstanding opens closes [x] ↔ opens x := by
  constructor
  · rintro ⟨later, y, earlier, split, opened, -⟩
    have mem : y ∈ [x] := by
      rw [split]
      exact List.mem_append_right _ List.mem_cons_self
    rwa [← List.mem_singleton.1 mem]
  · intro opened
    exact ⟨[], x, [], rfl, opened, List.forall_mem_nil _⟩

/-- **What is outstanding after two stretches**: what the second opened, and what the first did and
the second did not close. -/
theorem outstanding_append {first second : Transcript} :
    Outstanding opens closes (second ++ first) ↔
      Outstanding opens closes second ∨
        Outstanding opens closes first ∧ ∀ y ∈ second, ¬ closes y := by
  constructor
  · rintro ⟨later, x, earlier, split, opened, kept⟩
    rcases List.append_eq_append_iff.1 split with ⟨middle, rfl, rfl⟩ | ⟨middle, rfl, rest⟩
    · refine .inr ⟨⟨middle, x, earlier, rfl, opened, ?_⟩, ?_⟩
      · exact fun y mem => kept y (List.mem_append_right _ mem)
      · exact fun y mem => kept y (List.mem_append_left _ mem)
    · cases middle with
      | nil =>
        rw [List.nil_append] at rest
        refine .inr ⟨⟨[], x, earlier, rest.symm, opened, List.forall_mem_nil _⟩, ?_⟩
        rwa [List.append_nil]
      | cons y middle =>
        obtain ⟨rfl, rfl⟩ := List.cons.inj rest
        exact .inl ⟨later, x, middle, rfl, opened, kept⟩
  · rintro (⟨later, x, earlier, rfl, opened, kept⟩ |
      ⟨⟨later, x, earlier, rfl, opened, kept⟩, unclosed⟩)
    · exact ⟨later, x, earlier ++ first, by simp, opened, kept⟩
    · refine ⟨second ++ later, x, earlier, by simp, opened, ?_⟩
      intro y mem
      exact (List.mem_append.1 mem).elim (unclosed y) (kept y)

/-- What is outstanding after one more event. -/
theorem outstanding_cons {x : Event} {during : Transcript} :
    Outstanding opens closes (x :: during) ↔
      opens x ∨ Outstanding opens closes during ∧ ¬ closes x := by
  have split : x :: during = [x] ++ during := rfl
  rw [split, outstanding_append, outstanding_singleton, List.forall_mem_singleton]

instance decidableOutstanding [DecidablePred opens] [DecidablePred closes] :
    (during : Transcript) → Decidable (Outstanding opens closes during)
  | [] => isFalse (not_outstanding_of_forall (List.forall_mem_nil _))
  | x :: during =>
    have : Decidable (Outstanding opens closes during) := decidableOutstanding during
    decidable_of_iff (opens x ∨ Outstanding opens closes during ∧ ¬ closes x)
      outstanding_cons.symm

/-- **What was closed last is not outstanding**, if no event both opens and closes. -/
theorem Outstanding.not_reverse (apart : ∀ x, opens x → ¬ closes x) {during : Transcript}
    (h : Outstanding closes opens during) : ¬ Outstanding opens closes during := by
  induction during with
  | nil => exact absurd h (not_outstanding_of_forall (List.forall_mem_nil _))
  | cons x during ih =>
    rw [outstanding_cons] at h ⊢
    rintro (opened | ⟨before, unclosed⟩)
    · rcases h with closed | ⟨-, unopened⟩
      · exact apart x opened closed
      · exact unopened opened
    · rcases h with closed | ⟨before', -⟩
      · exact unclosed closed
      · exact ih before' before

end AccessHarness.Transcript
