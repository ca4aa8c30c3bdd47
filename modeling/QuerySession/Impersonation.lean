/-!
# Impersonation

Who may act for whom. A policy lets the users it names as proxies act for the users it names as
targets; a star stands for everyone. An authority holds policies and has an identity of its own, by
which a session recognises the one authority it accepts.

## Main Definitions

* `Policy` — proxies and targets
* `Authority` — policies with an identity
* `Authority.allows` — whether one user may act for another
-/

namespace QuerySession

/-- The identity of an authority. -/
structure AuthorityId where
  number : Nat
  deriving DecidableEq

/-- Users by name. -/
structure Principals where
  users : List String
  deriving DecidableEq

/-- The name that stands for everyone. -/
def Principals.everyone : String := "*"

/-- Whether `user` is among the users, by name or as anyone. -/
def Principals.covers (p : Principals) (user : String) : Bool :=
  p.users.any fun name => name == Principals.everyone || name == user

/-- The proxies may act for the targets. -/
structure Policy where
  proxies : Principals
  targets : Principals
  deriving DecidableEq

/-- Whether the policy lets `proxy` act for `target`. -/
def Policy.allows (p : Policy) (proxy target : String) : Bool :=
  p.proxies.covers proxy && p.targets.covers target

/-- Policies with an identity. -/
structure Authority where
  id : AuthorityId
  policies : List Policy
  deriving DecidableEq

/-- Whether one of the policies lets `proxy` act for `target`. -/
def Authority.allows (a : Authority) (proxy target : String) : Bool :=
  a.policies.any (·.allows proxy target)

/-- Users are included by name or by the star. -/
theorem Principals.covers_iff (p : Principals) (user : String) :
    p.covers user = true ↔ Principals.everyone ∈ p.users ∨ user ∈ p.users := by
  simp only [Principals.covers, List.any_eq_true, Bool.or_eq_true, beq_iff_eq]
  constructor
  · rintro ⟨name, h, rfl | rfl⟩ <;> simp [h]
  · rintro (h | h)
    · exact ⟨_, h, .inl rfl⟩
    · exact ⟨_, h, .inr rfl⟩

end QuerySession
