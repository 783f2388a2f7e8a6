import AccessHarness.Identity.Entity
import AccessHarness.Identity.Principal
import AccessHarness.Text.Quoted

/-!
# Privileges

An action on an entity.  Administration implies none of the other actions, so a set of
actions is just four yes-or-no answers (`ActionSet`): equal sets are equal values, and
union, difference and membership need no list.

Privileges are ordered by entity first and action second.
-/

namespace AccessHarness

/-- What can be done to an entity. -/
inductive Action where
  | read | write | execute | admin
  deriving DecidableEq, Repr

namespace Action

/-- Every action, in order. -/
def all : List Action := [.read, .write, .execute, .admin]

/-- The action in messages and documents. -/
def display : Action → String
  | .read => "READ"
  | .write => "WRITE"
  | .execute => "EXECUTE"
  | .admin => "ADMIN"

/-- The action as a value in a message. -/
def shown : Action → String
  | .read => "Read"
  | .write => "Write"
  | .execute => "Execute"
  | .admin => "Admin"

/-- Every action with its name in a document. -/
def wireNames : List (String × Action) := all.map fun a => (a.display, a)

/-- The place of an action in the order. -/
def place : Action → String
  | .read => "0"
  | .write => "1"
  | .execute => "2"
  | .admin => "3"

theorem place_injective {a b : Action} (h : a.place = b.place) : a = b := by
  cases a <;> cases b <;> first | rfl | exact absurd h (by decide)

end Action

/-- **A set of actions.** -/
structure ActionSet where
  read : Bool := false
  write : Bool := false
  execute : Bool := false
  admin : Bool := false
  deriving DecidableEq, Repr

namespace ActionSet

/-- No action. -/
def none : ActionSet := {}

instance : Inhabited ActionSet := ⟨none⟩

/-- Whether an action is in the set. -/
def contains (s : ActionSet) : Action → Bool
  | .read => s.read
  | .write => s.write
  | .execute => s.execute
  | .admin => s.admin

/-- The set of the actions that satisfy a condition. -/
def ofPredicate (p : Action → Bool) : ActionSet := ⟨p .read, p .write, p .execute, p .admin⟩

/-- The set of the actions of a list. -/
def ofList (l : List Action) : ActionSet := ofPredicate l.contains

/-- Both sets together. -/
def union (s t : ActionSet) : ActionSet := ofPredicate fun a => s.contains a || t.contains a

/-- The actions of the first set that are not in the second. -/
def diff (s t : ActionSet) : ActionSet := ofPredicate fun a => s.contains a && !t.contains a

/-- Whether the set has no action. -/
def isEmpty (s : ActionSet) : Bool := s == none

/-- The actions of the set, in order. -/
def toList (s : ActionSet) : List Action := Action.all.filter s.contains

@[simp] theorem contains_ofPredicate (p : Action → Bool) (a : Action) :
    (ofPredicate p).contains a = p a := by cases a <;> rfl

@[simp] theorem contains_none (a : Action) : none.contains a = false := by cases a <;> rfl

@[simp] theorem contains_ofList (l : List Action) (a : Action) :
    (ofList l).contains a = l.contains a := contains_ofPredicate _ a

@[simp] theorem contains_union (s t : ActionSet) (a : Action) :
    (s.union t).contains a = (s.contains a || t.contains a) := contains_ofPredicate _ a

@[simp] theorem contains_diff (s t : ActionSet) (a : Action) :
    (s.diff t).contains a = (s.contains a && !t.contains a) := contains_ofPredicate _ a

/-- **Sets with the same actions are the same set.** -/
theorem ext_contains {s t : ActionSet} (h : ∀ a, s.contains a = t.contains a) : s = t := by
  obtain ⟨r, w, x, m⟩ := s
  obtain ⟨r', w', x', m'⟩ := t
  have h1 : r = r' := h .read
  have h2 : w = w' := h .write
  have h3 : x = x' := h .execute
  have h4 : m = m' := h .admin
  subst h1 h2 h3 h4
  rfl

theorem mem_toList {s : ActionSet} {a : Action} : a ∈ s.toList ↔ s.contains a = true := by
  rw [toList, List.mem_filter]
  exact ⟨And.right, fun h => ⟨by cases a <;> decide, h⟩⟩

theorem isEmpty_iff {s : ActionSet} : s.isEmpty = true ↔ ∀ a, s.contains a = false := by
  rw [isEmpty, beq_iff_eq]
  exact ⟨fun h a => by rw [h, contains_none], fun h => ext_contains fun a => by
    rw [h a, contains_none]⟩

end ActionSet

/-- An action on an entity. -/
structure Privilege where
  entity : EntityId
  action : Action
  deriving DecidableEq, Repr

instance : Ranked Privilege where
  rank p := rank p.entity ++ [p.action.place]
  rank_injective {a b} h := by
    obtain ⟨ae, aa⟩ := a
    obtain ⟨be, ba⟩ := b
    obtain ⟨he, ha⟩ := List.append_inj' h rfl
    simp only [List.cons.injEq, and_true] at ha
    cases (Ranked.rank_injective he : ae = be)
    cases Action.place_injective ha
    rfl

namespace Privilege

/-- The privilege in messages. -/
def display (p : Privilege) : String := p.action.display ++ " on " ++ p.entity.display

end Privilege

end AccessHarness
