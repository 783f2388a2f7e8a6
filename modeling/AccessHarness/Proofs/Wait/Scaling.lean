import AccessHarness.Wait.Spec

/-!
# Scaled waits

A wait is scaled by a whole factor: its timeout and its interval are multiplied, and refused where
a product is longer than any duration.

* `WaitSpec.scaled_eq_ok_iff`, `WaitSpec.scaled_eq_error_iff` — what scaling comes to.
* `Duration.Parts` — a duration as a clock keeps it: seconds in 64 bits, and nanoseconds below one
  second.  `Duration.Parts.times?` multiplies part by part, with a carry.
* `WaitSpec.scaled_exact` — a wait that makes progress is scaled exactly, and still makes progress.

### What is load-bearing

**The interval of a valid wait is the shorter duration**, so its product fits wherever that of the
timeout does, and only the timeout decides.  **No product of nanoseconds overflows**: they are below
one second and the factor has 32 bits, so 64 bits hold the product, and what it has of whole seconds
is the carry (`Duration.Parts.total_times?`).
-/

namespace AccessHarness

/-! ### Seconds and nanoseconds -/

namespace Duration

/-- **A duration as a clock keeps it.** -/
structure Parts where
  seconds : UInt64
  nanos : UInt32
  nanos_lt : nanos.toNat < second

/-- The product of two numbers, if 64 bits hold it. -/
def product? (a b : UInt64) : Option UInt64 :=
  if a.toNat * b.toNat < UInt64.size then some (a * b) else none

/-- The sum of two numbers, if 64 bits hold it. -/
def sum? (a b : UInt64) : Option UInt64 :=
  if a.toNat + b.toNat < UInt64.size then some (a + b) else none

/-- Seconds with a part of one are a duration if 64 bits hold them. -/
theorem ofSeconds_add_le_longest_iff {n rest : Nat} (below : rest < second) :
    ofSeconds n + rest ≤ longest ↔ n < UInt64.size := by
  unfold longest ofSeconds second UInt64.size at *
  omega

namespace Parts

/-- All of it in nanoseconds. -/
def total (p : Parts) : Nat := ofSeconds p.seconds.toNat + p.nanos.toNat

/-- Every duration up to the longest has its parts. -/
theorem exists_total_eq {d : Nat} (h : d ≤ longest) : ∃ p : Parts, p.total = d := by
  have rest : subsecond d < second := Nat.mod_lt _ (by decide)
  have whole : Duration.seconds d < UInt64.size := by
    rwa [← ofSeconds_add_le_longest_iff rest, seconds_add_subsecond]
  have bits : subsecond d < UInt32.size := Nat.lt_trans rest (by decide)
  refine ⟨⟨.ofNat (Duration.seconds d), .ofNat (subsecond d), ?_⟩, ?_⟩
  · rw [UInt32.toNat_ofNat_of_lt' bits]
    exact rest
  · unfold total
    rw [UInt64.toNat_ofNat_of_lt' whole, UInt32.toNat_ofNat_of_lt' bits, seconds_add_subsecond]

/-- The nanoseconds of a product, before the carry. -/
def product (p : Parts) (factor : UInt32) : UInt64 := p.nanos.toUInt64 * factor.toUInt64

/-- **No product of nanoseconds overflows.** -/
theorem toNat_product (p : Parts) (factor : UInt32) :
    (p.product factor).toNat = p.nanos.toNat * factor.toNat := by
  have fits : p.nanos.toNat * factor.toNat < UInt64.size := by
    calc p.nanos.toNat * factor.toNat ≤ second * UInt32.size :=
          Nat.mul_le_mul (Nat.le_of_lt p.nanos_lt) (Nat.le_of_lt factor.toNat_lt_size)
      _ < UInt64.size := by decide
  rw [product, UInt64.toNat_mul, UInt32.toNat_toUInt64, UInt32.toNat_toUInt64]
  exact Nat.mod_eq_of_lt fits

/-- What the carry leaves is below one second. -/
theorem toNat_rest (p : Parts) (factor : UInt32) :
    (p.product factor % 1000000000).toUInt32.toNat = p.nanos.toNat * factor.toNat % second := by
  have rest : p.nanos.toNat * factor.toNat % second < UInt32.size :=
    Nat.lt_trans (Nat.mod_lt _ (by decide)) (show second < UInt32.size by decide)
  rw [UInt64.toNat_toUInt32, UInt64.toNat_mod, toNat_product]
  exact Nat.mod_eq_of_lt rest

/-- **A duration times a factor**, part by part: the whole seconds of the nanoseconds are carried
over, and what 64 bits do not hold is refused. -/
def times? (p : Parts) (factor : UInt32) : Option Parts :=
  match product? p.seconds factor.toUInt64 with
  | none => none
  | some seconds =>
    match sum? seconds (p.product factor / 1000000000) with
    | none => none
    | some seconds =>
      some ⟨seconds, (p.product factor % 1000000000).toUInt32, by
        rw [toNat_rest]
        exact Nat.mod_lt _ (by decide)⟩

/-- **Part by part or at once**: the product is refused if it is longer than any duration, and exact
otherwise. -/
theorem total_times? (p : Parts) (factor : UInt32) :
    (p.times? factor).map total =
      if p.total * factor.toNat ≤ longest then some (p.total * factor.toNat) else none := by
  -- whole seconds, the carry, and what it leaves
  have parts : p.total * factor.toNat =
      ofSeconds (p.seconds.toNat * factor.toNat + p.nanos.toNat * factor.toNat / second) +
        p.nanos.toNat * factor.toNat % second := by
    unfold total ofSeconds
    rw [Nat.add_mul, Nat.add_mul, Nat.mul_right_comm, Nat.add_assoc, Nat.div_add_mod']
  have carry : (p.product factor / 1000000000).toNat = p.nanos.toNat * factor.toNat / second := by
    rw [UInt64.toNat_div, toNat_product]
    rfl
  have rest : p.nanos.toNat * factor.toNat % second < second := Nat.mod_lt _ (by decide)
  simp only [parts, ofSeconds_add_le_longest_iff rest]
  unfold times? product? sum?
  rw [UInt32.toNat_toUInt64, carry]
  by_cases whole : p.seconds.toNat * factor.toNat < UInt64.size
  · have seconds : (p.seconds * factor.toUInt64).toNat = p.seconds.toNat * factor.toNat := by
      rw [UInt64.toNat_mul, UInt32.toNat_toUInt64]
      exact Nat.mod_eq_of_lt whole
    simp only [whole, if_true, seconds]
    by_cases fits : p.seconds.toNat * factor.toNat + p.nanos.toNat * factor.toNat / second <
        UInt64.size
    · have sum : (p.seconds * factor.toUInt64 + p.product factor / 1000000000).toNat =
          p.seconds.toNat * factor.toNat + p.nanos.toNat * factor.toNat / second := by
        rw [UInt64.toNat_add, seconds, carry]
        exact Nat.mod_eq_of_lt fits
      simp only [fits, if_true, Option.map_some, total, sum, toNat_rest]
    · simp only [fits, if_false, Option.map_none]
  · have tooLong : ¬ p.seconds.toNat * factor.toNat + p.nanos.toNat * factor.toNat / second <
        UInt64.size := by omega
    simp only [whole, tooLong, if_false, Option.map_none]

theorem exists_times?_iff (p : Parts) (factor : UInt32) (d : Nat) :
    (∃ q, p.times? factor = some q ∧ q.total = d) ↔
      p.total * factor.toNat ≤ longest ∧ d = p.total * factor.toNat := by
  rw [← Option.map_eq_some_iff, total_times?]
  by_cases fits : p.total * factor.toNat ≤ longest
  · simp [fits, eq_comm]
  · simp [fits]

end Parts

end Duration

/-! ### Scaling a wait -/

namespace WaitSpec

variable {w : WaitSpec} {description : String} {factor d : Nat}

/-- The fault of a duration that cannot be scaled. -/
def overflow (description : String) (factor d : Nat) : Fault :=
  .configuration ("scaling '" ++ description ++ "' by " ++ Nat.repr factor ++ " overflows " ++
    Duration.shown d)

theorem scaleDuration_of_le (fits : d * factor ≤ Duration.longest) :
    scaleDuration description factor d = .ok (d * factor) := if_pos fits

theorem scaleDuration_of_lt (long : Duration.longest < d * factor) :
    scaleDuration description factor d = .error (overflow description factor d) :=
  if_neg (Nat.not_le.2 long)

/-- The interval is no longer than the timeout, if there is something to wait for. -/
theorem interval_le_timeout (positive : 0 < w.timeout) (valid : w.validate = .ok ()) :
    w.interval ≤ w.timeout := by
  rcases w.validate_eq_ok_iff.1 valid with zero | ⟨-, shorter⟩
  · omega
  · exact Nat.le_of_lt shorter

/-- **Where the timeout can be scaled, so can the interval.** -/
theorem scaled_of_le (shorter : w.interval ≤ w.timeout)
    (fits : w.timeout * factor ≤ Duration.longest) :
    w.scaled factor = .ok ⟨w.description, w.timeout * factor, w.interval * factor⟩ := by
  have alike : w.interval * factor ≤ Duration.longest :=
    Nat.le_trans (Nat.mul_le_mul_right factor shorter) fits
  unfold scaled
  rw [scaleDuration_of_le fits, scaleDuration_of_le alike]
  rfl

/-- Where it cannot, nothing is. -/
theorem scaled_of_lt (long : Duration.longest < w.timeout * factor) :
    w.scaled factor = .error (overflow w.description factor w.timeout) := by
  unfold scaled
  rw [scaleDuration_of_lt long]
  rfl

theorem scaled_eq_ok_iff (shorter : w.interval ≤ w.timeout) (factor : Nat) (v : WaitSpec) :
    w.scaled factor = .ok v ↔
      w.timeout * factor ≤ Duration.longest ∧
        v = ⟨w.description, w.timeout * factor, w.interval * factor⟩ := by
  rcases Nat.lt_or_ge Duration.longest (w.timeout * factor) with long | fits
  · simp [scaled_of_lt long, Nat.not_le.2 long]
  · simp [scaled_of_le shorter fits, fits, eq_comm]

theorem scaled_eq_error_iff (shorter : w.interval ≤ w.timeout) (factor : Nat) (f : Fault) :
    w.scaled factor = .error f ↔
      Duration.longest < w.timeout * factor ∧ f = overflow w.description factor w.timeout := by
  rcases Nat.lt_or_ge Duration.longest (w.timeout * factor) with long | fits
  · simp [scaled_of_lt long, long, eq_comm]
  · simp [scaled_of_le shorter fits, Nat.not_lt.2 fits]

/-- **What makes progress makes progress when it is scaled.**  Scaled by zero it has nothing to wait
for. -/
theorem validate_scaled (positive : 0 < w.timeout) (valid : w.validate = .ok ())
    (factor : Nat) :
    (WaitSpec.mk w.description (w.timeout * factor) (w.interval * factor)).validate = .ok () := by
  rw [validate_eq_ok_iff]
  rcases Nat.eq_zero_or_pos factor with rfl | scales
  · exact .inl (Nat.mul_zero _)
  · rcases w.validate_eq_ok_iff.1 valid with zero | ⟨some, shorter⟩
    · omega
    · exact .inr ⟨Nat.mul_pos some scales, Nat.mul_lt_mul_of_pos_right shorter scales⟩

/-- Scaling twice is scaling once. -/
theorem scaled_scaled (shorter : w.interval ≤ w.timeout) {a : Nat} {u : WaitSpec}
    (first : w.scaled a = .ok u) (b : Nat) (v : WaitSpec) :
    u.scaled b = .ok v ↔ w.scaled (a * b) = .ok v := by
  obtain ⟨-, rfl⟩ := (scaled_eq_ok_iff shorter a u).1 first
  rw [scaled_eq_ok_iff (Nat.mul_le_mul_right a shorter), scaled_eq_ok_iff shorter, Nat.mul_assoc,
    Nat.mul_assoc]

/-- A wait is scaled part by part. -/
theorem scaled_parts (shorter : w.interval ≤ w.timeout) {timeout interval : Duration.Parts}
    (whole : timeout.total = w.timeout) (part : interval.total = w.interval) (factor : UInt32)
    (v : WaitSpec) :
    w.scaled factor.toNat = .ok v ↔ ∃ t i, timeout.times? factor = some t ∧
      interval.times? factor = some i ∧ v = ⟨w.description, t.total, i.total⟩ := by
  rw [scaled_eq_ok_iff shorter]
  rw [← whole, ← part] at shorter ⊢
  constructor
  · rintro ⟨fits, rfl⟩
    have alike : interval.total * factor.toNat ≤ Duration.longest :=
      Nat.le_trans (Nat.mul_le_mul_right _ shorter) fits
    obtain ⟨t, ht, total⟩ := (timeout.exists_times?_iff factor _).2 ⟨fits, rfl⟩
    obtain ⟨i, hi, total'⟩ := (interval.exists_times?_iff factor _).2 ⟨alike, rfl⟩
    exact ⟨t, i, ht, hi, by rw [total, total']⟩
  · rintro ⟨t, i, ht, hi, rfl⟩
    obtain ⟨fits, total⟩ := (timeout.exists_times?_iff factor _).1 ⟨t, ht, rfl⟩
    obtain ⟨-, total'⟩ := (interval.exists_times?_iff factor _).1 ⟨i, hi, rfl⟩
    exact ⟨fits, by rw [total, total']⟩

/-- **Scaling a wait is exact and keeps it valid.**  It fails only where the timeout would be longer
than any duration; otherwise timeout and interval are multiplied, by a product of factors as by one
after the other, and the wait still makes progress.  Durations that are kept in seconds and
nanoseconds, and multiplied with a carry, come to the same. -/
theorem scaled_exact (w : WaitSpec) (positive : 0 < w.timeout) (valid : w.validate = .ok ()) :
    (∀ factor f, w.scaled factor = .error f ↔
      Duration.longest < w.timeout * factor ∧ f = overflow w.description factor w.timeout) ∧
    (∀ factor v, w.scaled factor = .ok v ↔
      w.timeout * factor ≤ Duration.longest ∧
        v = ⟨w.description, w.timeout * factor, w.interval * factor⟩) ∧
    (∀ factor v, w.scaled factor = .ok v → v.validate = .ok ()) ∧
    (∀ a b u v, w.scaled a = .ok u → (u.scaled b = .ok v ↔ w.scaled (a * b) = .ok v)) ∧
    (w.timeout ≤ Duration.longest → ∃ timeout interval : Duration.Parts,
      timeout.total = w.timeout ∧ interval.total = w.interval ∧
        ∀ (factor : UInt32) v, w.scaled factor.toNat = .ok v ↔
          ∃ t i, timeout.times? factor = some t ∧ interval.times? factor = some i ∧
            v = ⟨w.description, t.total, i.total⟩) := by
  have shorter := interval_le_timeout positive valid
  refine ⟨scaled_eq_error_iff shorter, scaled_eq_ok_iff shorter, ?_, ?_, ?_⟩
  · intro factor v scaled
    obtain ⟨-, rfl⟩ := (scaled_eq_ok_iff shorter factor v).1 scaled
    exact validate_scaled positive valid factor
  · intro a b u v first
    exact scaled_scaled shorter first b v
  · intro bounded
    obtain ⟨timeout, whole⟩ := Duration.Parts.exists_total_eq bounded
    obtain ⟨interval, part⟩ := Duration.Parts.exists_total_eq (Nat.le_trans shorter bounded)
    exact ⟨timeout, interval, whole, part, scaled_parts shorter whole part⟩

/-- Three times this wait is the longest there is, and four times is too long. -/
theorem scaled_exact_longest :
    let w : WaitSpec := ⟨"plugin", 6148914691236517205333333333, 3000000001⟩
    0 < w.timeout ∧ w.validate = .ok () ∧
      w.scaled 3 = .ok ⟨"plugin", Duration.longest, 9000000003⟩ ∧
      w.scaled 4 = .error (overflow "plugin" 4 w.timeout) := by
  intro w
  have positive : 0 < w.timeout := by decide
  have valid : w.validate = .ok () := rfl
  obtain ⟨error, ok, -⟩ := w.scaled_exact positive valid
  exact ⟨positive, valid, (ok 3 _).2 ⟨by decide, by decide⟩, (error 4 _).2 ⟨by decide, rfl⟩⟩

end WaitSpec

end AccessHarness
