import AccessHarness.Pipeline.Config

/-!
# Well-formed pipelines

A graph is put together in any order and checked at the end, by two scans that stop at the first
thing that is wrong.

* `PipelineGraph.IsWellFormed` — every stage has a name of its own, and connections join stages.
* `PipelineGraph.FirstFlaw` — what is wrong first, in the words of the fault.
* `PipelineGraph.Judges` — an outcome is the graph in its configuration, or tells the first flaw.
* `PipelineGraph.ofSteps_judged` — so both kinds of pipeline are built, whatever the order of steps.

### What is load-bearing

**The scan of the stages starts anywhere.**  It carries the names that it has passed, so "named
before" is said of a scan that begins with some names (`firstRepeated_eq_some_iff`); a whole graph
is the case of none.  The scan of the connections carries nothing and is a search
(`firstDangling_eq_findSome?`).
-/

namespace AccessHarness

/-! ### Connections -/

namespace Connection

/-- **A connection joins two stages**, of those with some names. -/
def Joins (names : List String) (c : Connection) : Prop := c.origin ∈ names ∧ c.target ∈ names

/-- **The end of a connection that is reported**: its target only if its origin is known. -/
def Misses (names : List String) (c : Connection) (missing : String) : Prop :=
  (c.origin ∉ names ∧ missing = c.origin) ∨
    (c.origin ∈ names ∧ c.target ∉ names ∧ missing = c.target)

end Connection

namespace PipelineGraph

/-! ### Steps -/

namespace Step

/-- The stage that a step adds, if it adds one. -/
def stage? : Step → Option PipelineStage
  | .stage s => some s
  | .connection _ => none

/-- The connection that a step adds, if it adds one. -/
def connection? : Step → Option Connection
  | .stage _ => none
  | .connection c => some c

end Step

/-- Steps add to two lists, and to each in their own order. -/
theorem foldl_add (steps : List Step) (g : PipelineGraph) :
    steps.foldl add g =
      ⟨g.stages ++ steps.filterMap Step.stage?,
        g.connections ++ steps.filterMap Step.connection?⟩ := by
  induction steps generalizing g with
  | nil => simp
  | cons step rest ih =>
    rw [List.foldl_cons, ih]
    cases step with
    | stage s => simp [add, addStage, Step.stage?, List.filterMap_cons, Step.connection?]
    | connection c => simp [add, addConnection, Step.stage?, List.filterMap_cons, Step.connection?]

/-- **How stages and connections are interleaved does not enter a graph.** -/
theorem ofSteps_eq (steps : List Step) :
    ofSteps steps = ⟨steps.filterMap Step.stage?, steps.filterMap Step.connection?⟩ :=
  foldl_add steps empty

/-! ### The two scans -/

section Stages

variable {seen : List String} {s : PipelineStage} {rest : List PipelineStage}

theorem firstRepeated_of_mem (again : s.name ∈ seen) :
    firstRepeated seen (s :: rest) = some s.name := by
  simp [firstRepeated, again]

theorem firstRepeated_of_notMem (new : s.name ∉ seen) :
    firstRepeated seen (s :: rest) = firstRepeated (s.name :: seen) rest := by
  simp [firstRepeated, new]

/-- Nothing is repeated where the names differ, from each other and from those seen before. -/
theorem firstRepeated_eq_none_iff (seen : List String) (stages : List PipelineStage) :
    firstRepeated seen stages = none ↔
      (stages.map (·.name)).Nodup ∧ ∀ s ∈ stages, s.name ∉ seen := by
  induction stages generalizing seen with
  | nil => simp [firstRepeated]
  | cons s rest ih =>
    by_cases again : s.name ∈ seen
    · simp [firstRepeated_of_mem again, again]
    · -- for the stages after it, the name of this one is seen before
      rw [firstRepeated_of_notMem again, ih, List.map_cons, List.nodup_cons, List.forall_mem_cons]
      simp only [List.mem_map, List.mem_cons, not_or, not_exists, not_and]
      constructor
      · rintro ⟨apart, new⟩
        exact ⟨⟨fun t mem => (new t mem).1, apart⟩, again, fun t mem => (new t mem).2⟩
      · rintro ⟨⟨other, apart⟩, -, new⟩
        exact ⟨apart, fun t mem => ⟨other t mem, new t mem⟩⟩

/-- **What is repeated first**: the first name that was seen before, or in front of it. -/
theorem firstRepeated_eq_some_iff (seen : List String) (stages : List PipelineStage)
    (name : String) :
    firstRepeated seen stages = some name ↔
      ∃ before s after, stages = before ++ s :: after ∧ s.name = name ∧
        firstRepeated seen before = none ∧ (name ∈ seen ∨ name ∈ before.map (·.name)) := by
  constructor
  · intro found
    induction stages generalizing seen with
    | nil => cases found
    | cons s rest ih =>
      by_cases again : s.name ∈ seen
      · rw [firstRepeated_of_mem again, Option.some.injEq] at found
        exact ⟨[], s, rest, rfl, found, rfl, .inl (found ▸ again)⟩
      · rw [firstRepeated_of_notMem again] at found
        obtain ⟨before, t, after, rfl, same, none, earlier⟩ := ih _ found
        refine ⟨s :: before, t, after, rfl, same, ?_, ?_⟩
        · rw [firstRepeated_of_notMem again, none]
        · rw [List.map_cons, List.mem_cons, or_left_comm, ← or_assoc, ← List.mem_cons]
          exact earlier
  · rintro ⟨before, s, after, rfl, rfl, none, earlier⟩
    induction before generalizing seen with
    | nil => exact firstRepeated_of_mem (earlier.resolve_right List.not_mem_nil)
    | cons t before ih =>
      by_cases again : t.name ∈ seen
      · rw [firstRepeated_of_mem again] at none
        cases none
      · rw [firstRepeated_of_notMem again] at none
        rw [List.cons_append, firstRepeated_of_notMem again]
        refine ih _ none ?_
        rw [List.mem_cons, or_assoc, or_left_comm, ← List.mem_cons, ← List.map_cons]
        exact earlier

end Stages

theorem unknownEnd_eq_none_iff (names : List String) (c : Connection) :
    unknownEnd names c = none ↔ c.Joins names := by
  unfold unknownEnd Connection.Joins
  by_cases origin : c.origin ∈ names <;> by_cases target : c.target ∈ names <;>
    simp [origin, target]

theorem unknownEnd_eq_some_iff (names : List String) (c : Connection) (missing : String) :
    unknownEnd names c = some missing ↔ c.Misses names missing := by
  unfold unknownEnd Connection.Misses
  by_cases origin : c.origin ∈ names <;> by_cases target : c.target ∈ names <;>
    simp [origin, target, eq_comm]

/-- What dangles first is searched for. -/
theorem firstDangling_eq_findSome? (names : List String) (connections : List Connection) :
    firstDangling names connections =
      connections.findSome? fun c => (unknownEnd names c).map (c, ·) := by
  induction connections with
  | nil => rfl
  | cons c rest ih =>
    rw [firstDangling, List.findSome?_cons, ih]
    cases unknownEnd names c <;> rfl

theorem firstDangling_eq_none_iff (names : List String) (connections : List Connection) :
    firstDangling names connections = none ↔ ∀ c ∈ connections, c.Joins names := by
  simp only [firstDangling_eq_findSome?, List.findSome?_eq_none_iff, Option.map_eq_none_iff,
    unknownEnd_eq_none_iff]

/-- **What dangles first**: connections in front of it join stages. -/
theorem firstDangling_eq_some_iff (names : List String) (connections : List Connection)
    (c : Connection) (missing : String) :
    firstDangling names connections = some (c, missing) ↔
      ∃ before after, connections = before ++ c :: after ∧ c.Misses names missing ∧
        ∀ d ∈ before, d.Joins names := by
  rw [firstDangling_eq_findSome?, List.findSome?_eq_some_iff]
  simp only [Option.map_eq_some_iff, Prod.mk.injEq, Option.map_eq_none_iff,
    unknownEnd_eq_none_iff, unknownEnd_eq_some_iff]
  constructor
  · rintro ⟨before, d, after, split, ⟨e, misses, rfl, rfl⟩, joined⟩
    exact ⟨before, after, split, misses, joined⟩
  · rintro ⟨before, after, split, misses, joined⟩
    exact ⟨before, c, after, split, ⟨missing, misses, rfl, rfl⟩, joined⟩

/-! ### Judging a graph -/

/-- The names of the stages. -/
def names (g : PipelineGraph) : List String := g.stages.map (·.name)

/-- **A graph that can be run**: every stage has a name of its own, and connections join stages. -/
structure IsWellFormed (g : PipelineGraph) : Prop where
  namedOnce : g.names.Nodup
  joined : ∀ c ∈ g.connections, c.Joins g.names

/-- **What is wrong first with a graph**: a stage that is named like one in front of it; if there is
none, a connection with an end that is no stage. -/
inductive FirstFlaw (g : PipelineGraph) : String → Prop where
  | repeated {before after : List PipelineStage} {s : PipelineStage}
      (place : g.stages = before ++ s :: after) (apart : (before.map (·.name)).Nodup)
      (again : s.name ∈ before.map (·.name)) :
      FirstFlaw g ("duplicate pipeline stage '" ++ s.name ++ "'")
  | dangling {before after : List Connection} {c : Connection} {missing : String}
      (namedOnce : g.names.Nodup) (place : g.connections = before ++ c :: after)
      (joined : ∀ d ∈ before, d.Joins g.names) (misses : c.Misses g.names missing) :
      FirstFlaw g ("connection " ++ c.origin ++ " -> " ++ c.target ++
        " references unknown stage '" ++ missing ++ "'")

/-- **How a graph is judged**: what comes of it is a configuration with this graph, exactly if it is
well formed, and otherwise the first flaw, as a fault of configuration. -/
structure Judges {C : Type} (g : PipelineGraph) (configured : PipelineGraph → C)
    (o : Outcome C) : Prop where
  eq_ok_iff : ∀ config, o = .ok config ↔ g.IsWellFormed ∧ config = configured g
  eq_error_iff : ∀ f, o = .error f ↔ ∃ text, g.FirstFlaw text ∧ f = .configuration text

theorem build_of_isWellFormed {g : PipelineGraph} (h : g.IsWellFormed) : g.build = .ok g := by
  have nowhere : firstRepeated [] g.stages = none :=
    (firstRepeated_eq_none_iff _ _).2 ⟨h.namedOnce, fun _ _ => List.not_mem_nil⟩
  have joined : firstDangling (g.stages.map (·.name)) g.connections = none :=
    (firstDangling_eq_none_iff _ _).2 h.joined
  unfold build
  rw [nowhere, joined]

theorem build_of_firstFlaw {g : PipelineGraph} {text : String} (h : g.FirstFlaw text) :
    g.build = .error (.configuration text) := by
  unfold build
  cases h with
  | @repeated before after s place apart again =>
    have inFront : firstRepeated [] before = none :=
      (firstRepeated_eq_none_iff _ _).2 ⟨apart, fun _ _ => List.not_mem_nil⟩
    have found : firstRepeated [] g.stages = some s.name :=
      (firstRepeated_eq_some_iff _ _ _).2 ⟨before, s, after, place, rfl, inFront, .inr again⟩
    rw [found]
  | @dangling before after c missing namedOnce place joined misses =>
    have nowhere : firstRepeated [] g.stages = none :=
      (firstRepeated_eq_none_iff _ _).2 ⟨namedOnce, fun _ _ => List.not_mem_nil⟩
    have found : firstDangling (g.stages.map (·.name)) g.connections = some (c, missing) :=
      (firstDangling_eq_some_iff _ _ _ _).2 ⟨before, after, place, misses, joined⟩
    rw [nowhere]
    simp only [found]

/-- A graph is well formed unless something is wrong with it first. -/
theorem isWellFormed_or_firstFlaw (g : PipelineGraph) :
    g.IsWellFormed ∨ ∃ text, g.FirstFlaw text := by
  cases scan : firstRepeated [] g.stages with
  | some name =>
    obtain ⟨before, s, after, place, rfl, inFront, again⟩ :=
      (firstRepeated_eq_some_iff _ _ _).1 scan
    have apart := ((firstRepeated_eq_none_iff _ _).1 inFront).1
    exact .inr ⟨_, .repeated place apart (again.resolve_left List.not_mem_nil)⟩
  | none =>
    have namedOnce : g.names.Nodup := ((firstRepeated_eq_none_iff _ _).1 scan).1
    cases search : firstDangling g.names g.connections with
    | some found =>
      obtain ⟨c, missing⟩ := found
      obtain ⟨before, after, place, misses, joined⟩ := (firstDangling_eq_some_iff _ _ _ _).1 search
      exact .inr ⟨_, .dangling namedOnce place joined misses⟩
    | none => exact .inl ⟨namedOnce, (firstDangling_eq_none_iff _ _).1 search⟩

/-- **The check judges a graph**, whatever configuration it is put into. -/
theorem judges_build {C : Type} (g : PipelineGraph) (configured : PipelineGraph → C) :
    g.Judges configured (g.build.map configured) := by
  rcases g.isWellFormed_or_firstFlaw with wellFormed | ⟨text, flaw⟩
  · have sound : ∀ text, ¬ g.FirstFlaw text := by
      intro text flaw
      cases (build_of_isWellFormed wellFormed).symm.trans (build_of_firstFlaw flaw)
    rw [build_of_isWellFormed wellFormed]
    constructor
    · intro config
      simp only [Except.map, Except.ok.injEq, wellFormed, true_and, eq_comm]
    · intro f
      simp only [Except.map, reduceCtorEq, sound, false_and, exists_false]
  · have flawed : ¬ g.IsWellFormed := by
      intro wellFormed
      cases (build_of_isWellFormed wellFormed).symm.trans (build_of_firstFlaw flaw)
    rw [build_of_firstFlaw flaw]
    constructor
    · intro config
      simp only [Except.map, reduceCtorEq, flawed, false_and]
    · intro f
      simp only [Except.map, Except.error.injEq]
      constructor
      · rintro rfl
        exact ⟨text, flaw, rfl⟩
      · rintro ⟨text', flaw', rfl⟩
        cases (build_of_firstFlaw flaw).symm.trans (build_of_firstFlaw flaw')
        rfl

/-- **A pipeline is built if and only if its graph is well formed.**  Steps make one graph however
stages and connections are interleaved, with each kind in the order it was added; both kinds of
pipeline keep it as it is, or name what is wrong with it first. -/
theorem ofSteps_judged (steps : List Step) :
    let g := ofSteps steps
    g.stages = steps.filterMap Step.stage? ∧ g.connections = steps.filterMap Step.connection? ∧
    (∀ schedule engine,
      g.Judges (BatchConfig.mk schedule engine) (BatchConfig.build schedule engine g)) ∧
    (∀ interval, g.Judges (StreamingConfig.mk interval) (StreamingConfig.build interval g)) ∧
    ∀ steps' : List Step, ofSteps steps' = g ↔
      steps'.filterMap Step.stage? = steps.filterMap Step.stage? ∧
      steps'.filterMap Step.connection? = steps.filterMap Step.connection? := by
  intro g
  have lists : g = ⟨steps.filterMap Step.stage?, steps.filterMap Step.connection?⟩ :=
    ofSteps_eq steps
  refine ⟨congrArg stages lists, congrArg connections lists, ?_, ?_, ?_⟩
  · intro schedule engine
    exact judges_build g (BatchConfig.mk schedule engine)
  · intro interval
    exact judges_build g (StreamingConfig.mk interval)
  · intro steps'
    rw [lists, ofSteps_eq, PipelineGraph.mk.injEq]

end PipelineGraph

end AccessHarness
