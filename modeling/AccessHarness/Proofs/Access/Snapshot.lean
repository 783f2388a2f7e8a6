import AccessHarness.Proofs.Access.Entries

/-!
# The list of the grants

`Ledger.grants` writes two levels of maps out as one list.  This file says that nothing is lost on
the way, and that the list is fit to clean up with.

* `Grant.place`, `Grant.Before` — where a grant is written, and the order of what is listed.
* `Ledger.grants_increasing`, `Ledger.grants_places_nodup` — the list is in order, and has each
  place once.
* `Ledger.written?_recordAll_of_mem` — what becomes of an entry if something is recorded about each
  grant of a list.
* `Ledger.grants_snapshot` — the list makes the ledger anew, and taken back in any order it leaves
  an empty one.

### What is load-bearing

**Each place once.**  Grants at different places have nothing to do with each other, so in a run
over the list an entry meets one step only, wherever that step stands.  No two steps are ever
exchanged: the order of a list does not enter at all.

**Taking back all of an entry forgets it**, also one without an action, and with its last entity
the principal (`Ledger.Populated`).  This is why what is left is not merely a ledger that holds
nothing, but the empty one.
-/

namespace AccessHarness

namespace Grant

/-- Where a grant is written. -/
def place (g : Grant) : Principal × EntityId := (g.principal, g.entity)

/-- **The order in which grants are listed**: by principal, then by entity. -/
def Before (g g' : Grant) : Prop :=
  Ranked.Before g.principal g'.principal ∨
    g.principal = g'.principal ∧ Ranked.Before g.entity g'.entity

theorem Before.place_ne {g g' : Grant} (h : g.Before g') : g.place ≠ g'.place := by
  intro same
  obtain ⟨principal, entity⟩ := Prod.mk.inj same
  rcases h with before | ⟨-, before⟩
  · exact before.ne principal
  · exact before.ne entity

/-- The step that writes a grant. -/
def recording (g : Grant) : LedgerStep := .grant g.principal g.entity g.actions

/-- The step that takes back what a grant gave. -/
def withdrawal (g : Grant) : LedgerStep := .revoke g.principal g.entity (some g.actions)

theorem concerns_recording {g : Grant} {p : Principal} {e : EntityId} :
    g.recording.Concerns p e ↔ g.place = (p, e) := by
  rw [place, Prod.mk.injEq, eq_comm, @eq_comm _ g.entity]
  exact Iff.rfl

theorem concerns_withdrawal {g : Grant} {p : Principal} {e : EntityId} :
    g.withdrawal.Concerns p e ↔ g.place = (p, e) := concerns_recording

end Grant

namespace Ledger

variable {l : Ledger} {p : Principal} {e : EntityId}

/-! ### The list in order -/

/-- **The grants are listed by principal and entity.** -/
theorem grants_increasing (l : Ledger) : l.grants.Pairwise Grant.Before := by
  rw [grants, List.pairwise_flatMap]
  constructor
  · rintro ⟨p, held⟩ -
    rw [List.pairwise_map]
    exact held.increasing.imp fun before => .inr ⟨rfl, before⟩
  · refine l.byPrincipal.increasing.imp ?_
    intro x y before g listed g' listed'
    obtain ⟨-, -, rfl⟩ := List.mem_map.1 listed
    obtain ⟨-, -, rfl⟩ := List.mem_map.1 listed'
    exact .inl before

/-- **No place is listed twice.** -/
theorem grants_places_nodup (l : Ledger) : (l.grants.map Grant.place).Nodup := by
  rw [List.Nodup, List.pairwise_map]
  exact l.grants_increasing.imp Grant.Before.place_ne

/-- An entry is listed, or nothing is listed for its place. -/
theorem not_mem_places (unwritten : l.written? p e = none) : (p, e) ∉ l.grants.map Grant.place := by
  intro listed
  obtain ⟨g, mem, place⟩ := List.mem_map.1 listed
  obtain ⟨rfl, rfl⟩ := Prod.mk.inj place
  rw [mem_grants_iff, unwritten] at mem
  cases mem

/-! ### A step for each grant -/

section EachOnce

variable {step : Grant → LedgerStep} {gs : List Grant} {g : Grant}
  (about : ∀ {g p e}, (step g).Concerns p e ↔ g.place = (p, e))

include about

/-- A place that is not in the list keeps its entry. -/
theorem written?_recordAll_of_not_mem_places (absent : (p, e) ∉ gs.map Grant.place) (l : Ledger) :
    (LedgerStep.recordAll (gs.map step) l).written? p e = l.written? p e := by
  refine written?_recordAll_of_not_concerns ?_ l
  rw [List.forall_mem_map]
  intro g mem concerned
  exact absent (List.mem_map.2 ⟨g, mem, about.1 concerned⟩)

/-- **An entry meets the step of its grant, and no other.** -/
theorem written?_recordAll_of_mem (once : (gs.map Grant.place).Nodup) (mem : g ∈ gs) (l : Ledger) :
    (LedgerStep.recordAll (gs.map step) l).written? g.principal g.entity =
      (step g).effect (l.written? g.principal g.entity) := by
  obtain ⟨earlier, later, rfl⟩ := List.append_of_mem mem
  rw [List.map_append, List.map_cons, List.nodup_middle, List.nodup_cons, List.mem_append,
    not_or] at once
  obtain ⟨⟨notEarlier, notLater⟩, -⟩ := once
  rw [List.map_append, List.map_cons, LedgerStep.recordAll_append, LedgerStep.recordAll_cons,
    written?_recordAll_of_not_mem_places about notLater, written?_record, if_pos (about.2 rfl),
    written?_recordAll_of_not_mem_places about notEarlier]

end EachOnce

/-! ### Making the ledger anew, and taking it back -/

/-- **The grants of a ledger make it anew.** -/
theorem Populated.recordAll_recording (h : l.Populated) :
    LedgerStep.recordAll (l.grants.map Grant.recording) empty = l := by
  refine (populated_empty.recordAll _).ext_written? h ?_
  intro p e
  cases written : l.written? p e with
  | none =>
    rw [written?_recordAll_of_not_mem_places Grant.concerns_recording (not_mem_places written),
      written?_empty]
  | some actions =>
    have listed : (⟨p, e, actions⟩ : Grant) ∈ l.grants := mem_grants_iff.2 written
    have added : ActionSet.none.union actions = actions :=
      ActionSet.ext_contains fun a => by simp
    calc (LedgerStep.recordAll (l.grants.map Grant.recording) empty).written? p e
        = addActions actions none :=
          written?_recordAll_of_mem Grant.concerns_recording l.grants_places_nodup listed empty
      _ = some actions := by rw [addActions, Option.getD_none, added]

/-- **Taken back in any order, the grants of a ledger leave an empty one.** -/
theorem Populated.isEmpty_recordAll_withdrawal (h : l.Populated) {gs : List Grant}
    (order : gs.Perm l.grants) :
    (LedgerStep.recordAll (gs.map Grant.withdrawal) l).isEmpty = true := by
  have places : (gs.map Grant.place).Perm (l.grants.map Grant.place) := order.map _
  have once : (gs.map Grant.place).Nodup := places.nodup_iff.2 l.grants_places_nodup
  rw [(h.recordAll _).isEmpty_iff]
  intro p e
  cases written : l.written? p e with
  | none =>
    rw [written?_recordAll_of_not_mem_places Grant.concerns_withdrawal
      (mt places.mem_iff.1 (not_mem_places written)), written]
  | some actions =>
    have listed : (⟨p, e, actions⟩ : Grant) ∈ gs := order.mem_iff.2 (mem_grants_iff.2 written)
    have nothing : (actions.diff actions).isEmpty = true :=
      ActionSet.isEmpty_iff.2 fun a => by simp
    calc (LedgerStep.recordAll (gs.map Grant.withdrawal) l).written? p e
        = dropActions (some actions) (l.written? p e) :=
          written?_recordAll_of_mem Grant.concerns_withdrawal once listed l
      _ = none := by rw [written, dropActions, if_pos nothing]

/-- **The list of grants is a faithful snapshot.**  After any run it is strictly increasing by
principal and entity, so that no place stands in it twice; recorded in an empty ledger it makes
the ledger anew; and with each of its grants revoked, in whatever order, the ledger is empty. -/
theorem grants_snapshot (steps : List LedgerStep) :
    let l := LedgerStep.recordAll steps empty
    l.grants.Pairwise Grant.Before ∧
    (l.grants.map Grant.place).Nodup ∧
    l.grants.foldl (fun l g => l.recordGrant g.principal g.entity g.actions) empty = l ∧
    ∀ gs : List Grant, gs.Perm l.grants →
      (gs.foldl (fun l g => l.recordRevoke g.principal g.entity (some g.actions)) l).isEmpty =
        true := by
  intro l
  have populated : l.Populated := populated_empty.recordAll steps
  refine ⟨l.grants_increasing, l.grants_places_nodup, ?_, ?_⟩
  · have anew := populated.recordAll_recording
    rwa [LedgerStep.recordAll, List.foldl_map] at anew
  · intro gs order
    have taken := populated.isEmpty_recordAll_withdrawal order
    rwa [LedgerStep.recordAll, List.foldl_map] at taken

end Ledger

end AccessHarness
