import AccessHarness.Access.Ledger

/-!
# One tree of entities

Three functions speak of the tree that entities form: `EntityId.parent` takes one step up,
`EntityId.namespaceId` names the namespace of an entity, and `EntityId.isContainedIn` decides
whether an entity lies in a namespace.  Only the first one walks; this file shows that the other
two say what a walk would find.

* `EntityId.Climbs` — the chain of parents above an entity.
* `EntityId.climbs_ancestors` — the `ancestors` of an entity are its chain.
* `EntityId.Climbs.isContainedIn_iff` — an entity lies in the namespaces of its chain.
* `EntityId.hierarchy_agrees` — all of it together, and what it means for the privileges that the
  deletion of a namespace takes.

### What is load-bearing

**Everything is said of one step.**  The kinds of entities are gone through for the parent only:
it stands one level higher (`depth_of_parent`), it belongs to the same namespace unless it is the
root (`isContainedIn_iff_parent`), and whoever has a parent has a namespace
(`isSome_namespaceId_iff`).  What holds of a chain follows by induction on the chain.
-/

namespace AccessHarness

namespace EntityId

/-- **The chain above an entity**: its parent, the parent of that, and so on until there is
none. -/
inductive Climbs : EntityId → List EntityId → Prop
  | top {e : EntityId} (last : e.parent = none) : Climbs e []
  | up {e p : EntityId} {chain : List EntityId} (step : e.parent = some p)
      (rest : Climbs p chain) : Climbs e (p :: chain)

variable {e p : EntityId} {chain : List EntityId} {ns : NamespaceId}

/-! ### One step -/

/-- A parent stands one level higher. -/
theorem depth_of_parent (step : e.parent = some p) : e.depth = p.depth + 1 := by
  cases e <;> cases step <;> rfl

theorem parent_eq_none_iff : e.parent = none ↔ e.depth = 0 := by
  cases e <;> simp [parent, depth]

theorem depth_le (e : EntityId) : e.depth ≤ 3 := by
  cases e <;> simp [depth]

/-- **An entity has a namespace exactly if it has a parent.** -/
theorem isSome_namespaceId_iff : e.namespaceId.isSome = true ↔ ∃ p, e.parent = some p := by
  cases e <;> simp [namespaceId, namespaceName, parent]

/-- Only the root is above others and below nothing. -/
theorem eq_root_of_parent (step : e.parent = some p) (last : p.parent = none) : p = root := by
  cases e <;> cases step <;> first | rfl | cases last

/-- **Containment, one step up**: an entity lies in a namespace if its parent is that namespace
or lies in it. -/
theorem isContainedIn_iff_parent :
    e.isContainedIn ns = true ↔
      ∃ p, e.parent = some p ∧ (p = ns.toEntity ∨ p.isContainedIn ns = true) := by
  obtain ⟨name⟩ := ns
  cases e <;>
    simp [isContainedIn, isNamespace, namespaceId, namespaceName, parent, root,
      NamespaceId.toEntity]

/-- The namespace of an entity is that entity, or contains it. -/
theorem namespaceId_eq_some_iff :
    e.namespaceId = some ns ↔ e = ns.toEntity ∨ e.isContainedIn ns = true := by
  obtain ⟨name⟩ := ns
  cases e <;> simp [isContainedIn, isNamespace, namespaceId, namespaceName, NamespaceId.toEntity]

/-! ### The whole chain -/

/-- As many steps up as an entity stands deep are all there are. -/
theorem climbs_climb {n : Nat} (deep : e.depth ≤ n) : e.Climbs (climb n e) := by
  induction n generalizing e with
  | zero => exact .top (parent_eq_none_iff.2 (Nat.le_zero.1 deep))
  | succ n ih =>
    unfold climb
    cases step : e.parent with
    | none => exact .top step
    | some p =>
      have higher := depth_of_parent step
      exact .up step (ih (by omega))

theorem climbs_ancestors (e : EntityId) : e.Climbs e.ancestors := climbs_climb (Nat.le_refl _)

namespace Climbs

/-- Each step leads one level up, and the last one to the top. -/
theorem length_eq (h : e.Climbs chain) : chain.length = e.depth := by
  induction h with
  | top last => exact (parent_eq_none_iff.1 last).symm
  | up step _ ih => rw [List.length_cons, ih, depth_of_parent step]

/-- **An entity lies in a namespace exactly if its chain passes through it.** -/
theorem isContainedIn_iff (h : e.Climbs chain) :
    e.isContainedIn ns = true ↔ ns.toEntity ∈ chain := by
  induction h with
  | top last =>
    rw [isContainedIn_iff_parent, last]
    simp
  | up step _ ih =>
    rw [isContainedIn_iff_parent, step, List.mem_cons, ← ih]
    simp only [Option.some.injEq, exists_eq_left']
    exact or_congr_left eq_comm

/-- **Whatever belongs to a namespace ends up at the root**, and nothing else has anything above
it. -/
theorem getLast?_eq (h : e.Climbs chain) : chain.getLast? = e.namespaceId.map fun _ => root := by
  have owned {e p : EntityId} (step : e.parent = some p) :
      e.namespaceId.map (fun _ => root) = some root := by
    obtain ⟨ns, own⟩ := Option.isSome_iff_exists.1 (isSome_namespaceId_iff.2 ⟨p, step⟩)
    rw [own, Option.map_some]
  induction h with
  | @top e last =>
    have free : e.namespaceId = none := by
      rw [← Option.not_isSome_iff_eq_none, isSome_namespaceId_iff, last]
      exact fun ⟨_, impossible⟩ => nomatch impossible
    rw [free, List.getLast?_nil, Option.map_none]
  | up step rest ih =>
    rw [owned step]
    cases rest with
    | top last => rw [eq_root_of_parent step last, List.getLast?_singleton]
    | up step' _ => rw [List.getLast?_cons_cons, ih, owned step']

end Climbs

/-! ### Agreement -/

/-- **Namespace, containment and parents describe one tree.**  To climb from an entity takes at most
three steps.  It lies in exactly the namespaces on its way; its own namespace is the entity itself
or one of those; and it has a way to go exactly if it has a namespace, with the instance at the
end.  The deletion of a namespace takes administration of the namespace, and of those entities that
have it on their way. -/
theorem hierarchy_agrees (ns : NamespaceId) :
    (∀ e : EntityId,
      e.Climbs e.ancestors ∧ e.ancestors.length ≤ 3 ∧
      (e.isContainedIn ns = true ↔ ns.toEntity ∈ e.ancestors) ∧
      (e.namespaceId = some ns ↔ e = ns.toEntity ∨ e.isContainedIn ns = true) ∧
      (e.ancestors ≠ [] ↔ e.namespaceId ≠ none) ∧
      e.ancestors.getLast? = e.namespaceId.map fun _ => .platform "cdap") ∧
    ∀ contained : List EntityId,
      Requirement.forDeletion ns contained =
        (ns.toEntity, .admin) ::
          (contained.filter fun e => ns.toEntity ∈ e.ancestors).map fun e => (e, .admin) := by
  constructor
  · intro e
    have way := climbs_ancestors e
    have last := way.getLast?_eq
    have short : e.ancestors.length ≤ 3 := way.length_eq ▸ e.depth_le
    refine ⟨way, short, way.isContainedIn_iff, namespaceId_eq_some_iff, ?_, last⟩
    rw [ne_eq, ← List.getLast?_eq_none_iff, last, Option.map_eq_none_iff]
  · intro contained
    have same (e : EntityId) : e.isContainedIn ns = decide (ns.toEntity ∈ e.ancestors) := by
      rw [Bool.eq_iff_iff, decide_eq_true_iff]
      exact (climbs_ancestors e).isContainedIn_iff
    simp only [Requirement.forDeletion, same]

/-- A program lies three steps below the instance, and its namespace is on the way. -/
example : (EntityId.program "ns" "app" .service "s").ancestors =
    [.application "ns" "app", .space "ns", .platform "cdap"] := rfl

end EntityId

end AccessHarness
