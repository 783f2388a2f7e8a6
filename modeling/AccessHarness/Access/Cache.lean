/-!
# Cached decisions

Enforcement points of the platform may cache what they decided, so a change of
privileges need not show at once.  A policy says what the harness does about it.
-/

namespace AccessHarness

/-- How a change of privileges becomes visible. -/
inductive CachePolicy where
  /-- Ask the platform to forget its decisions after every change. -/
  | invalidateOnMutation
  /-- Wait until cached decisions have expired, after every change. -/
  | stalenessWindow (window : Nat)
  /-- Leave it to the scenario. -/
  | manual
  deriving DecidableEq, Repr

end AccessHarness
