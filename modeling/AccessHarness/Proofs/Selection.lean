import AccessHarness.Proofs.Cli

/-!
# What arguments select

Scenarios are selected by pairs of a flag and a value.  Whatever else stands in a command line is
passed over, and without any pair every scenario is selected; so a pair that goes unnoticed may
select more than was asked for.

* `Command.Flag` — the two flags, the values they know and what those select.
* `Command.given` — what arguments give the flags: each occurrence with the argument after it.
* `Command.select_eq` — a selection, told from what is given.
* `Command.Guarded` — the selections by which nothing is selected that was not asked for.
* `Command.select_guarded_iff` — all of them, except where a flag is the last argument and no other
  is refused.
* `Command.select_widens` — such a flag selects every scenario.

### What is load-bearing

**A selection depends on what is given and on nothing else.**  The argument after a flag may be a
flag again, so the pairs overlap; but no value is a flag (`Flag.ofWord?_of_knows`), so overlapping
pairs are refused.  What is left are pairs side by side, in any order and number.

**A flag that is the last argument gives nothing.**  It is the one occurrence that no pair stands
for, hence the one that a selection cannot tell from an argument that is passed over.
-/

namespace AccessHarness.Command

/-! ### Flags and their values -/

/-- The flags that select scenarios. -/
inductive Flag where
  | scenario | suite
  deriving DecidableEq, Repr

namespace Flag

/-- The argument that a flag is. -/
def word : Flag → String
  | .scenario => "--scenario"
  | .suite => "--suite"

/-- The flag that an argument is. -/
def ofWord? (arg : String) : Option Flag := [scenario, suite].find? fun flag => flag.word == arg

/-- **Whether a value selects a scenario**: it is the scenario's name, or it names its suite, in any
case and with blanks around it, or all of them, in any case. -/
def selects : Flag → String → Scenario → Bool
  | .scenario, value, s => s.name == value
  | .suite, value, s =>
    Text.sameLetters "all" value || Text.sameLetters s.suite.name (Text.trim value)

/-- **The values that a flag knows**: the names of scenarios, and those of suites. -/
def Knows : Flag → String → Prop
  | .scenario, value => ∃ s ∈ Scenario.registry, s.name = value
  | .suite, value => Text.sameLetters "all" value = true ∨
      ∃ suite ∈ Suite.all, Text.sameLetters suite.name (Text.trim value) = true

instance (flag : Flag) (value : String) : Decidable (flag.Knows value) :=
  match flag with
  | .scenario => inferInstanceAs (Decidable (∃ s ∈ Scenario.registry, s.name = value))
  | .suite => inferInstanceAs (Decidable (_ ∨ ∃ suite ∈ Suite.all, _ = true))

theorem ofWord?_eq_some_iff {arg : String} {flag : Flag} :
    ofWord? arg = some flag ↔ arg = flag.word := by
  constructor
  · intro found
    unfold ofWord? at found
    have same := List.find?_some found
    exact (beq_iff_eq.1 same).symm
  · rintro rfl
    cases flag <;> rfl

/-- **No value is a flag.** -/
theorem ofWord?_of_knows {flag : Flag} {value : String} (h : flag.Knows value) :
    ofWord? value = none := by
  have unknown : ∀ other : Flag, ¬ flag.Knows other.word := by
    intro other
    cases flag <;> cases other <;> decide +kernel
  cases found : ofWord? value with
  | none => rfl
  | some other =>
    rw [ofWord?_eq_some_iff.1 found] at h
    exact absurd h (unknown other)

end Flag

/-! ### What is given -/

/-- **What arguments give the flags**: each occurrence of a flag with the argument after it. -/
def given (args : List String) : List (Flag × String) :=
  (args.zip args.tail).filterMap fun x => (Flag.ofWord? x.1).map (·, x.2)

/-- Pairs of a flag and a value as arguments. -/
def written (pairs : List (Flag × String)) : List String := pairs.flatMap fun p => [p.1.word, p.2]

/-- **Whether all that is given is known.** -/
def Known (pairs : List (Flag × String)) : Prop := ∀ p ∈ pairs, p.1.Knows p.2

instance (pairs : List (Flag × String)) : Decidable (Known pairs) :=
  inferInstanceAs (Decidable (∀ p ∈ pairs, p.1.Knows p.2))

/-- The values that one flag is given. -/
def valuesAmong (flag : Flag) (pairs : List (Flag × String)) : List String :=
  pairs.filterMap fun p => if p.1 = flag then some p.2 else none

/-- The first value that one flag does not know. -/
def firstUnknown (flag : Flag) (pairs : List (Flag × String)) : Option String :=
  (valuesAmong flag pairs).find? fun value => ¬ flag.Knows value

/-- **The scenarios that pairs select**, in the order of the registry. -/
def selected (pairs : List (Flag × String)) : List Scenario :=
  Scenario.registry.filter fun s => pairs.any fun p => p.1.selects p.2 s

variable {args : List String} {flag : Flag} {value : String} {pairs : List (Flag × String)}

theorem given_cons (a b : String) (rest : List String) :
    given (a :: b :: rest) = ((Flag.ofWord? a).map (·, b)).toList ++ given (b :: rest) := by
  unfold given
  rw [List.tail_cons, List.zip_cons_cons, List.filterMap_cons]
  cases Flag.ofWord? a <;> rfl

/-- **What is given stands right after a flag.** -/
theorem mem_given_iff :
    (flag, value) ∈ given args ↔ ∃ i, args[i]? = some flag.word ∧ args[i + 1]? = some value := by
  unfold given
  rw [List.mem_filterMap]
  constructor
  · rintro ⟨⟨a, b⟩, mem, same⟩
    obtain ⟨other, found, same⟩ := Option.map_eq_some_iff.1 same
    cases same
    obtain ⟨i, at_i⟩ := List.mem_iff_getElem?.1 mem
    rw [List.getElem?_zip_eq_some, List.getElem?_tail] at at_i
    exact ⟨i, Flag.ofWord?_eq_some_iff.1 found ▸ at_i.1, at_i.2⟩
  · rintro ⟨i, here, next⟩
    refine ⟨(flag.word, value), List.mem_iff_getElem?.2 ⟨i, ?_⟩, ?_⟩
    · rw [List.getElem?_zip_eq_some, List.getElem?_tail]
      exact ⟨here, next⟩
    · rw [Flag.ofWord?_eq_some_iff.2 rfl]
      rfl

/-- Pairs of known values are given as they are written. -/
theorem given_written (known : Known pairs) : given (written pairs) = pairs := by
  -- nothing is given by a value, whatever comes after it
  have skip {value : String} (h : Flag.ofWord? value = none) (rest : List String) :
      given (value :: rest) = given rest := by
    cases rest with
    | nil => rfl
    | cons next rest =>
      rw [given_cons, h]
      rfl
  induction pairs with
  | nil => rfl
  | cons p rest ih =>
    obtain ⟨first, later⟩ := List.forall_mem_cons.1 known
    show given (p.1.word :: p.2 :: written rest) = p :: rest
    rw [given_cons, Flag.ofWord?_eq_some_iff.2 rfl, skip (Flag.ofWord?_of_knows first), ih later]
    rfl

theorem mem_valuesAmong : value ∈ valuesAmong flag pairs ↔ (flag, value) ∈ pairs := by
  unfold valuesAmong
  rw [List.mem_filterMap]
  constructor
  · rintro ⟨p, mem, same⟩
    obtain ⟨own, same⟩ := Option.ite_none_right_eq_some.1 same
    rw [← own, ← Option.some.inj same]
    exact mem
  · intro mem
    exact ⟨(flag, value), mem, if_pos rfl⟩

theorem firstUnknown_eq_none_iff :
    firstUnknown flag pairs = none ↔ ∀ value, (flag, value) ∈ pairs → flag.Knows value := by
  unfold firstUnknown
  rw [List.find?_eq_none]
  simp only [mem_valuesAmong, decide_not, Bool.not_eq_true, Bool.not_eq_false', decide_eq_true_eq]

theorem known_iff :
    Known pairs ↔ ∀ flag, firstUnknown flag pairs = none := by
  simp only [firstUnknown_eq_none_iff, Known, Prod.forall]

/-- The argument after each occurrence of a flag is what the flag is given. -/
theorem valuesOf_eq (flag : Flag) (args : List String) :
    valuesOf flag.word args = valuesAmong flag (given args) := by
  induction args with
  | nil => rfl
  | cons a rest ih =>
    cases rest with
    | nil => rfl
    | cons b rest =>
      rw [valuesOf, ih, given_cons]
      unfold valuesAmong
      rw [List.filterMap_append]
      by_cases here : a = flag.word
      · rw [if_pos here, Flag.ofWord?_eq_some_iff.2 here]
        simp
      · rw [if_neg here]
        cases found : Flag.ofWord? a with
        | none => rfl
        | some other =>
          have apart : other ≠ flag := by
            rintro rfl
            exact here (Flag.ofWord?_eq_some_iff.1 found)
          simp [apart]

/-! ### Selections -/

theorem isNone_find? (name : String) :
    (Scenario.find? name).isNone = !decide (Flag.scenario.Knows name) := by
  rw [Bool.eq_iff_iff, Option.isNone_iff_eq_none, Scenario.find?, List.find?_eq_none,
    Bool.not_eq_true', decide_eq_false_iff_not]
  simp only [beq_iff_eq]
  constructor
  · rintro absent ⟨s, mem, named⟩
    exact absent s mem named
  · intro unknown s mem named
    exact unknown ⟨s, mem, named⟩

/-- Suites have different names, in any case. -/
theorem sameLetters_name_iff {suite other : Suite} {raw : String}
    (h : Text.sameLetters suite.name raw = true) :
    Text.sameLetters other.name raw = true ↔ other = suite := by
  have apart : ∀ suite other : Suite,
      suite.name.toList.map Char.toLower = other.name.toList.map Char.toLower → suite = other := by
    intro suite other
    cases suite <;> cases other <;> decide
  unfold Text.sameLetters at h ⊢
  rw [beq_iff_eq] at h ⊢
  constructor
  · intro same
    exact apart other suite (same.trans h.symm)
  · rintro rfl
    exact h

/-- **The suites of a known value** are those of the scenarios that it selects. -/
theorem exists_suitesOf (known : Flag.suite.Knows value) :
    ∃ suites, suitesOf value = .ok suites ∧ suites ≠ [] ∧
      ∀ s : Scenario, suites.contains s.suite = Flag.suite.selects value s := by
  unfold suitesOf
  by_cases every : Text.sameLetters "all" value = true
  · refine ⟨Suite.all, if_pos every, List.cons_ne_nil _ _, ?_⟩
    intro s
    rw [Flag.selects, every, Bool.true_or]
    cases s.suite <;> rfl
  · rw [if_neg every]
    obtain ⟨suite, mem, named⟩ := known.resolve_left every
    have found : Suite.ofName? value = some suite := by
      unfold Suite.ofName?
      cases first : Suite.all.find? fun s => Text.sameLetters s.name (Text.trim value) with
      | none => exact absurd named (List.find?_eq_none.1 first suite mem)
      | some other =>
        have same := List.find?_some first
        rw [(sameLetters_name_iff named).1 same]
    rw [found]
    refine ⟨[suite], rfl, List.cons_ne_nil _ _, ?_⟩
    intro s
    rw [Flag.selects, Bool.eq_false_iff.2 every, Bool.false_or, Bool.eq_iff_iff,
      sameLetters_name_iff named, List.contains_iff_mem, List.mem_singleton]

theorem suitesOf_of_unknown (unknown : ¬ Flag.suite.Knows value) :
    suitesOf value = .error (.unknownSuite value) := by
  obtain ⟨notAll, none⟩ := not_or.1 unknown
  have nothing : Suite.ofName? value = Option.none := by
    rw [Suite.ofName?, List.find?_eq_none]
    intro suite mem named
    exact none ⟨suite, mem, named⟩
  rw [suitesOf, if_neg notAll, nothing]

/-- The suites of known values. -/
theorem exists_suitesOfAll {values : List String}
    (known : ∀ value ∈ values, Flag.suite.Knows value) :
    ∃ suites, suitesOfAll values = .ok suites ∧ (suites = [] ↔ values = []) ∧
      ∀ s : Scenario, suites.contains s.suite = values.any fun v => Flag.suite.selects v s := by
  induction values with
  | nil => exact ⟨[], rfl, ⟨fun _ => rfl, fun _ => rfl⟩, fun s => rfl⟩
  | cons value rest ih =>
    obtain ⟨first, later⟩ := List.forall_mem_cons.1 known
    obtain ⟨here, read, some, selects⟩ := exists_suitesOf first
    obtain ⟨others, readAll, -, selectsAll⟩ := ih later
    refine ⟨here ++ others, ?_, ?_, ?_⟩
    · rw [suitesOfAll, read, readAll]
      rfl
    · simp [some]
    · intro s
      rw [List.any_cons, ← selects, ← selectsAll, List.contains_append]

/-- The first unknown value is what is said about suites. -/
theorem suitesOfAll_of_unknown {values : List String}
    (unknown : values.find? (fun value => ¬ Flag.suite.Knows value) = some value) :
    suitesOfAll values = .error (.unknownSuite value) := by
  induction values with
  | nil => cases unknown
  | cons first rest ih =>
    rw [suitesOfAll]
    by_cases known : Flag.suite.Knows first
    · rw [List.find?_cons_of_neg (by simpa using known)] at unknown
      obtain ⟨here, read, -⟩ := exists_suitesOf known
      rw [read, ih unknown]
      rfl
    · rw [List.find?_cons_of_pos (by simpa using known)] at unknown
      cases unknown
      rw [suitesOf_of_unknown known]
      rfl

/-- What selects a scenario is its name or its suite. -/
theorem any_selects (pairs : List (Flag × String)) (s : Scenario) :
    (pairs.any fun p => p.1.selects p.2 s) =
      (((valuesAmong .suite pairs).any fun v => Flag.suite.selects v s) ||
        (valuesAmong .scenario pairs).contains s.name) := by
  rw [Bool.eq_iff_iff, Bool.or_eq_true]
  simp only [List.any_eq_true, List.contains_iff_mem, mem_valuesAmong, Prod.exists]
  constructor
  · rintro ⟨flag, value, mem, selects⟩
    cases flag with
    | scenario =>
      have named : s.name = value := beq_iff_eq.1 selects
      exact .inr (named ▸ mem)
    | suite => exact .inl ⟨value, mem, selects⟩
  · rintro (⟨value, mem, selects⟩ | mem)
    · exact ⟨.suite, value, mem, selects⟩
    · exact ⟨.scenario, s.name, mem, beq_self_eq_true s.name⟩

theorem eq_nil_iff_valuesAmong (pairs : List (Flag × String)) :
    pairs = [] ↔ valuesAmong .scenario pairs = [] ∧ valuesAmong .suite pairs = [] := by
  simp only [List.eq_nil_iff_forall_not_mem, mem_valuesAmong, Prod.forall]
  constructor
  · intro none
    exact ⟨fun v => none .scenario v, fun v => none .suite v⟩
  · rintro ⟨names, suites⟩ flag v
    cases flag with
    | scenario => exact names v
    | suite => exact suites v

/-- **A selection, told from what is given**: the first unknown name of a scenario, or else the
first unknown suite; and if all is known, what the pairs select, or everything if there are none. -/
theorem select_eq (args : List String) :
    select args =
      match firstUnknown .scenario (given args), firstUnknown .suite (given args) with
      | some name, _ => .error (.unknownScenario name)
      | none, some raw => .error (.unknownSuite raw)
      | none, none =>
        .ok (if given args = [] then Scenario.registry else selected (given args)) := by
  have names : valuesOf "--scenario" args = valuesAmong .scenario (given args) :=
    valuesOf_eq .scenario args
  have raws : valuesOf "--suite" args = valuesAmong .suite (given args) := valuesOf_eq .suite args
  have unknown : ((valuesAmong .scenario (given args)).find? fun n => (Scenario.find? n).isNone) =
      firstUnknown .scenario (given args) := by
    simp only [firstUnknown, isNone_find?, decide_not]
  unfold select
  simp only [names, raws, unknown]
  cases unnamed : firstUnknown .scenario (given args) with
  | some name => rfl
  | none =>
    cases unread : firstUnknown .suite (given args) with
    | some raw =>
      rw [suitesOfAll_of_unknown unread]
      rfl
    | none =>
      have known : ∀ v ∈ valuesAmong .suite (given args), Flag.suite.Knows v := fun v mem =>
        firstUnknown_eq_none_iff.1 unread v (mem_valuesAmong.1 mem)
      obtain ⟨suites, read, empty, selects⟩ := exists_suitesOfAll known
      rw [read]
      show Except.ok _ = Except.ok _
      congr 1
      have nothing : ((valuesAmong .scenario (given args)).isEmpty && suites.isEmpty) = true ↔
          given args = [] := by
        rw [Bool.and_eq_true, List.isEmpty_iff, List.isEmpty_iff, empty,
          ← eq_nil_iff_valuesAmong]
      by_cases none : given args = []
      · rw [if_pos none, if_pos (nothing.2 none), List.filter_eq_self]
        intro s _
        cases s.suite <;> rfl
      · rw [if_neg none, if_neg (none ∘ nothing.1)]
        unfold selected
        simp only [any_selects, selects]

theorem select_of_known (known : Known (given args)) :
    select args =
      .ok (if given args = [] then Scenario.registry else selected (given args)) := by
  rw [select_eq, known_iff.1 known .scenario, known_iff.1 known .suite]

/-- **What is refused** is what has an unknown value, whatever else there is. -/
theorem select_eq_error_iff : (∃ e, select args = .error e) ↔ ¬ Known (given args) := by
  constructor
  · rintro ⟨e, refused⟩ known
    rw [select_of_known known] at refused
    cases refused
  · rw [known_iff, select_eq]
    intro unknown
    cases unnamed : firstUnknown .scenario (given args) with
    | some name => exact ⟨_, rfl⟩
    | none =>
      cases unread : firstUnknown .suite (given args) with
      | some raw => exact ⟨_, rfl⟩
      | none =>
        refine absurd (fun flag => ?_) unknown
        cases flag with
        | scenario => exact unnamed
        | suite => exact unread

theorem known_of_select {picked : List Scenario} (h : select args = .ok picked) :
    Known (given args) := by
  by_contra unknown
  obtain ⟨e, refused⟩ := select_eq_error_iff.2 unknown
  rw [refused] at h
  cases h

/-! ### Pairs in another order or number -/

/-- **Pairs that say the same**: of those with known values the same ones, in any order and however
often; of the others the same ones in the same order. -/
structure SameChoice (pairs pairs' : List (Flag × String)) : Prop where
  known : ∀ p, p.1.Knows p.2 → (p ∈ pairs ↔ p ∈ pairs')
  unknown : pairs.filter (fun p => ¬ p.1.Knows p.2) = pairs'.filter fun p => ¬ p.1.Knows p.2

variable {pairs' : List (Flag × String)} {args' : List String}

/-- Known pairs say the same if they are the same, in any order and however often. -/
theorem sameChoice_of_known (known : Known pairs) (same : ∀ p, p ∈ pairs ↔ p ∈ pairs') :
    SameChoice pairs pairs' where
  known p _ := same p
  unknown := by
    have none {l : List (Flag × String)} (h : Known l) :
        l.filter (fun p => ¬ p.1.Knows p.2) = [] := by
      rw [List.filter_eq_nil_iff]
      intro p mem
      simpa using h p mem
    rw [none known, none fun p mem => known p ((same p).2 mem)]

theorem SameChoice.mem_iff (h : SameChoice pairs pairs') (p : Flag × String) :
    p ∈ pairs ↔ p ∈ pairs' := by
  by_cases knows : p.1.Knows p.2
  · exact h.known p knows
  · have among (l : List (Flag × String)) : p ∈ l ↔ p ∈ l.filter fun p => ¬ p.1.Knows p.2 := by
      simp [knows]
    rw [among pairs, among pairs', h.unknown]

/-- The first unknown value is among those whose order is kept. -/
theorem firstUnknown_filter (flag : Flag) (pairs : List (Flag × String)) :
    firstUnknown flag (pairs.filter fun p => ¬ p.1.Knows p.2) = firstUnknown flag pairs := by
  have among : valuesAmong flag (pairs.filter fun p => ¬ p.1.Knows p.2) =
      (valuesAmong flag pairs).filter fun value => ¬ flag.Knows value := by
    unfold valuesAmong
    rw [List.filterMap_filter, List.filter_filterMap]
    congr 1
    funext p
    by_cases own : p.1 = flag
    · by_cases knows : flag.Knows p.2 <;> simp [own, knows, Option.filter]
    · simp [own]
  rw [firstUnknown, among, List.find?_filter, firstUnknown]
  simp only [and_self, Bool.decide_eq_true]

/-- **The order and the number of known pairs is no matter.** -/
theorem select_congr (same : SameChoice (given args) (given args')) :
    select args' = select args := by
  have first (flag : Flag) : firstUnknown flag (given args') = firstUnknown flag (given args) := by
    rw [← firstUnknown_filter, ← same.unknown, firstUnknown_filter]
  have empty : given args' = [] ↔ given args = [] := by
    simp only [List.eq_nil_iff_forall_not_mem, same.mem_iff]
  have selects : selected (given args') = selected (given args) := by
    unfold selected
    congr 1
    funext s
    rw [Bool.eq_iff_iff]
    simp only [List.any_eq_true, same.mem_iff]
  simp only [select_eq, first, empty, selects]

/-! ### Selections that do not widen -/

/-- **A selection by which nothing is selected that was not asked for.** -/
structure Guarded (args : List String) : Prop where
  /-- An occurrence of a flag with no known value right after it is refused. -/
  refused : ∀ (flag : Flag) i, args[i]? = some flag.word →
    (∀ value, args[i + 1]? = some value → ¬ flag.Knows value) → ∃ e, select args = .error e
  /-- Without any flag everything is selected. -/
  everything : (∀ flag : Flag, flag.word ∉ args) → select args = .ok Scenario.registry
  /-- With a flag nothing is selected but what the pairs select. -/
  restricted : ∀ flag : Flag, flag.word ∈ args → ∀ picked, select args = .ok picked →
    picked = selected (given args)
  /-- If every occurrence has a known value, that is selected. -/
  answered : (∃ flag : Flag, flag.word ∈ args) →
    (∀ (flag : Flag) i, args[i]? = some flag.word →
      ∃ value, args[i + 1]? = some value ∧ flag.Knows value) →
    select args = .ok (selected (given args))
  /-- What is selected stands in the order of the registry, and once. -/
  inOrder : ∀ picked, select args = .ok picked →
    picked.Sublist Scenario.registry ∧ (picked.map Scenario.name).Nodup
  /-- The order and the number of known pairs is no matter. -/
  unchanged : ∀ args', SameChoice (given args) (given args') → select args' = select args

/-- **Arguments that end in a flag** and give nothing that is unknown. -/
def EndsInFlag (args : List String) : Prop :=
  (∃ flag : Flag, args.getLast? = some flag.word) ∧ Known (given args)

/-- **Every occurrence of a flag but one at the end gives something.** -/
theorem exists_given_or_last {i : Nat} (here : args[i]? = some flag.word) :
    (∃ value, args[i + 1]? = some value ∧ (flag, value) ∈ given args) ∨
      args.getLast? = some flag.word := by
  cases next : args[i + 1]? with
  | some value => exact .inl ⟨value, rfl, mem_given_iff.2 ⟨i, here, next⟩⟩
  | none =>
    have short : args.length ≤ i + 1 := List.getElem?_eq_none_iff.1 next
    have long : i < args.length := (List.getElem?_eq_some_iff.1 here).1
    have last : args.length - 1 = i := by omega
    rw [List.getLast?_eq_getElem?, last]
    exact .inr here

/-- A flag among arguments that do not end in one gives something. -/
theorem given_ne_nil (h : ¬ EndsInFlag args) (known : Known (given args))
    (occurs : flag.word ∈ args) : given args ≠ [] := by
  obtain ⟨i, here⟩ := List.mem_iff_getElem?.1 occurs
  rcases exists_given_or_last here with ⟨value, -, mem⟩ | last
  · exact List.ne_nil_of_mem mem
  · exact absurd ⟨⟨flag, last⟩, known⟩ h

theorem guarded_of_not_endsInFlag (h : ¬ EndsInFlag args) : Guarded args where
  refused flag i here unfollowed := by
    rw [select_eq_error_iff]
    intro known
    rcases exists_given_or_last here with ⟨value, next, mem⟩ | last
    · exact unfollowed value next (known _ mem)
    · exact h ⟨⟨flag, last⟩, known⟩
  everything noFlag := by
    have nothing : given args = [] := by
      rw [List.eq_nil_iff_forall_not_mem]
      rintro ⟨flag, value⟩ mem
      obtain ⟨i, here, -⟩ := mem_given_iff.1 mem
      exact noFlag flag (List.mem_of_getElem? here)
    rw [select_eq, nothing]
    rfl
  restricted flag occurs picked picks := by
    have known := known_of_select picks
    rw [select_of_known known, if_neg (given_ne_nil h known occurs), Except.ok.injEq] at picks
    exact picks.symm
  answered := by
    rintro ⟨flag, occurs⟩ followed
    have known : Known (given args) := by
      rintro ⟨flag, value⟩ mem
      obtain ⟨i, here, next⟩ := mem_given_iff.1 mem
      obtain ⟨value', next', knows⟩ := followed flag i here
      rw [next, Option.some.injEq] at next'
      exact next' ▸ knows
    rw [select_of_known known, if_neg (given_ne_nil h known occurs)]
  inOrder picked picks := by
    have sublist := sublist_of_select picks
    exact ⟨sublist, nodup_registry.sublist (sublist.map _)⟩
  unchanged args' same := select_congr same

/-- Where the last argument is a flag and nothing else is refused, that flag is not refused. -/
theorem not_guarded_of_endsInFlag (h : EndsInFlag args) : ¬ Guarded args := by
  obtain ⟨⟨flag, last⟩, known⟩ := h
  intro guarded
  rw [List.getLast?_eq_getElem?] at last
  have long := (List.getElem?_eq_some_iff.1 last).1
  have nothing : args[args.length - 1 + 1]? = none := by
    rw [List.getElem?_eq_none_iff]
    omega
  have refused : ∃ e, select args = .error e := by
    refine guarded.refused flag (args.length - 1) last ?_
    intro value next
    rw [nothing] at next
    cases next
  exact select_eq_error_iff.1 refused known

/-- **Which selections do not widen**: all but those of arguments that end in a flag and give
nothing that is unknown.  That flag is passed over: the other pairs select what they select, and
without any everything is selected.  Pairs side by side are given as they are written, so their
order and number is no matter. -/
theorem select_guarded_iff (args : List String) :
    (Guarded args ↔ ¬ EndsInFlag args) ∧
    (EndsInFlag args → select args =
      .ok (if given args = [] then Scenario.registry else selected (given args))) ∧
    ∀ pairs pairs' : List (Flag × String), Known pairs → (∀ p, p ∈ pairs ↔ p ∈ pairs') →
      select (written pairs') = select (written pairs) := by
  refine ⟨⟨fun guarded ends => not_guarded_of_endsInFlag ends guarded,
    guarded_of_not_endsInFlag⟩, fun ends => select_of_known ends.2, ?_⟩
  intro pairs pairs' known same
  have known' : Known pairs' := fun p mem => known p ((same p).2 mem)
  refine select_congr ?_
  rw [given_written known, given_written known']
  exact sameChoice_of_known known same

/-- Two pairs with an argument between them that is passed over; and a pair in front of a flag. -/
theorem select_guarded_iff_passed :
    Guarded ["--suite", " ETL ", "--list", "--scenario", "deploy_app"] ∧
      EndsInFlag ["--suite", "etl", "--scenario"] ∧
      select ["--suite", "etl", "--scenario"] = .ok (selected [(.suite, "etl")]) := by
  have ends : EndsInFlag ["--suite", "etl", "--scenario"] :=
    ⟨⟨.scenario, rfl⟩, by decide +kernel⟩
  refine ⟨(select_guarded_iff _).1.2 ?_, ends, (select_guarded_iff _).2.1 ends⟩
  rintro ⟨⟨flag, last⟩, -⟩
  cases flag <;> exact absurd last (by decide)

/-- **A flag without a value selects everything.** -/
theorem select_widens :
    let args := ["--list", "--suite"]
    select args = .ok Scenario.registry ∧ EndsInFlag args ∧ ¬ Guarded args := by
  intro args
  have ends : EndsInFlag args := ⟨⟨.suite, rfl⟩, by decide +kernel⟩
  exact ⟨rfl, ends, not_guarded_of_endsInFlag ends⟩

end AccessHarness.Command
