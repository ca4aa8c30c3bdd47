import QuerySession.Security.Registry
import QuerySession.Session.Basic

/-!
# Establishing sessions

A connection becomes a session in fixed steps: the session is built, its user is authenticated, the
context provider adds to the attributes, they become options of the session, and another user takes
over if the client asked for it and the authority allows it.

## Main Definitions

* `Establisher` — the providers and policies that are used
* `Establisher.establish` — the steps
-/

namespace QuerySession

/-- What sessions are established with. -/
structure Establisher where
  authenticator : ProviderId
  contextHandler : Option ProviderId
  contextLoadPolicy : ContextLoadPolicy
  authority : Option Authority
  spans : List String
  deriving DecidableEq

namespace Establisher

variable {σ : Type}

/-- An establisher without an authority. -/
def make (authenticator : ProviderId) (contextHandler : Option ProviderId)
    (policy : ContextLoadPolicy) (spans : List String) : Establisher :=
  ⟨authenticator, contextHandler, policy, none, spans ++ ["session_establisher"]⟩

/-- Let sessions accept an authority from now on. -/
def withAuthority (e : Establisher) (authority : Authority) : Establisher :=
  { e with authority := some authority }

/-- An establisher with the providers of a registry. -/
def ofRegistry (providers : Providers σ) (r : Registry) (settings : Settings)
    (spans : List String) : Action σ (Except Error Establisher × Registry) := do
  let (authenticator, r) ← r.get providers .authenticator settings
  match authenticator with
  | .error e => pure (.error e, r)
  | .ok authenticator =>
    let (contextHandler, r) ← r.get providers .contextHandler settings
    match contextHandler with
    | .error e => pure (.error e, r)
    | .ok contextHandler =>
      pure (.ok (make authenticator (some contextHandler) settings.security.contextLoadPolicy
        spans), r)

/-- An error of a context provider as one about loading context. -/
def contextLoadError (sessionId : String) (e : Error) : Error :=
  match e.reason? with
  | some (.contextLoad ..) => e
  | _ => .failed (.contextLoad sessionId e.message)
      ((Context.of "session_establisher").during "load_context") (.error e)

/-- The attributes with what the context provider adds. When it fails the policy decides whether
the connection fails too, or goes on with the attributes as they were before. -/
def loadContext (providers : Providers σ) (e : Establisher) (attributes : List OptionValue)
    (sessionId : String) : Attempt σ (List OptionValue) := do
  match e.contextHandler with
  | none => pure attributes
  | some p =>
    let (result, enriched) ← ExceptT.lift (within e.spans (providers.load p attributes sessionId))
    match result, e.contextLoadPolicy with
    | .ok (), _ => pure enriched
    | .error err, .fail => .ofExcept (.error (contextLoadError sessionId err))
    | .error err, .warn =>
      within e.spans (.emit .warn
        "Context load failed; continuing with authentication attributes only"
        [("session_id", sessionId), ("error", err.message)])
      pure attributes

/-- Let the user that the client asked to act for take over. -/
def impersonate (e : Establisher) (s : Session) : Attempt σ Session := do
  match e.authority with
  | none => pure s
  | some authority =>
    let (result, s) ← ExceptT.lift (s.actForTarget authority)
    .ofExcept result
    pure s

/-- The user to authenticate: as the client says, or else whoever is connected. -/
def userOf (s : Session) : String :=
  (s.properties.find? Properties.user).getD s.credentials.userName

/-- Build, authenticate and enrich a session. -/
def establish (providers : Providers σ) (e : Establisher) (r : SessionRequest) (id : String) :
    Attempt σ Session := do
  let r := match e.authority with
    | some authority => { r with authority := some authority.id }
    | none => r
  let s ← Session.build r id
  let user := userOf s
  let password := s.properties.findD Properties.password
  let attributes ← within e.spans (providers.authenticate e.authenticator user password)
  let attributes ← loadContext providers e attributes s.id
  let s := { s with options := s.options.applyAll attributes }
  let s ← impersonate e s
  within e.spans (.emit .info "Session established"
    [("session_id", s.id), ("user", user), ("attributes", toString attributes.length)])
  pure s

/-- Close the providers. -/
def shutdown (providers : Providers σ) (e : Establisher) : Action σ Unit :=
  within e.spans (closeProviders providers (some e.authenticator) e.contextHandler)

end Establisher

end QuerySession
