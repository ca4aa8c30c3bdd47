import QuerySession.Action
import QuerySession.Options.Basic
import QuerySession.Settings.Basic

/-!
# Providers

Providers connect the server to identity systems: authenticators turn a user and a password into
attributes for the session, context providers add to them. They are outside of the library and go
by numbers; each is made by a factory, set up once, and closed in the end.

## Main Definitions

* `Factory` — what makes providers
* `Providers` — the calls
-/

namespace QuerySession

/-- What makes providers of one implementation. -/
inductive Factory where
  /-- Providers that ask an HTTP endpoint. -/
  | httpLogin
  /-- Context providers that add nothing. -/
  | noContext
  /-- Providers of someone else, told apart by a number. -/
  | custom (number : Nat)
  deriving DecidableEq

/-- One provider. -/
structure ProviderId where
  number : Nat
  deriving DecidableEq

/-- The providers outside. -/
structure Providers (σ : Type) where
  /-- Make a provider. -/
  construct : Factory → Action σ ProviderId
  /-- Prepare a provider for use. -/
  setup : ProviderId → Settings → Attempt σ Unit
  /-- Release what a provider holds. -/
  close : ProviderId → Attempt σ Unit
  /-- The attributes of a user who gives the right password. -/
  authenticate : ProviderId → (user password : String) → Attempt σ (List OptionValue)
  /-- The attributes of a session as the provider leaves them, and whether it succeeded. -/
  load : ProviderId → List OptionValue → (sessionId : String) →
    Action σ (Except Error Unit × List OptionValue)

end QuerySession
