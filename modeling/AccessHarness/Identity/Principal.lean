import AccessHarness.OrderedMap

/-!
# Principals

Who holds privileges: a user, a group, a role, or the identity that a namespace or an
application runs as.  Principals are ordered by name first and kind second.
-/

namespace AccessHarness

/-- The kinds of principal. -/
inductive PrincipalKind where
  | user | group | role
  /-- The identity a namespace or application runs as under impersonation. -/
  | kerberosPrincipal
  deriving DecidableEq, Repr

namespace PrincipalKind

/-- The kind in a route and in a written principal. -/
def segment : PrincipalKind → String
  | .user => "user"
  | .group => "group"
  | .role => "role"
  | .kerberosPrincipal => "kerberosprincipal"

/-- The name of the kind in a document. -/
def wireName : PrincipalKind → String
  | .user => "USER"
  | .group => "GROUP"
  | .role => "ROLE"
  | .kerberosPrincipal => "KERBEROS_PRINCIPAL"

/-- Every kind with its name in a document. -/
def wireNames : List (String × PrincipalKind) :=
  [.user, .group, .role, .kerberosPrincipal].map fun k => (k.wireName, k)

/-- The place of a kind in the order. -/
def place : PrincipalKind → String
  | .user => "0"
  | .group => "1"
  | .role => "2"
  | .kerberosPrincipal => "3"

theorem place_injective {a b : PrincipalKind} (h : a.place = b.place) : a = b := by
  cases a <;> cases b <;> first | rfl | exact absurd h (by decide)

end PrincipalKind

/-- A holder of privileges. -/
structure Principal where
  name : String
  kind : PrincipalKind
  deriving DecidableEq, Repr

namespace Principal

/-- The user of a name. -/
def user (name : String) : Principal := ⟨name, .user⟩

/-- Kind and name, as in `user:alice`. -/
def display (p : Principal) : String := p.kind.segment ++ ":" ++ p.name

end Principal

instance : Ranked Principal where
  rank p := [p.name, p.kind.place]
  rank_injective {a b} h := by
    obtain ⟨an, ak⟩ := a
    obtain ⟨bn, bk⟩ := b
    simp only [List.cons.injEq, and_true] at h
    rw [h.1, PrincipalKind.place_injective h.2]

end AccessHarness
