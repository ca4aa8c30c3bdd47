import QuerySession.Security.Provider
import QuerySession.Text.Blank
import QuerySession.Text.LowerCase
import QuerySession.Text.Quoted

/-!
# The registry of providers

Implementations are registered under a type tag. The settings name one tag for each extension
point; the one candidate that carries it is made and set up when it is first needed, and the same
provider is answered from then on.

## Main Definitions

* `Candidate` — a registered implementation, perhaps without tag or factory
* `Candidate.verdict`, `Candidate.matching` — how candidates fit a tag
* `Resolution.select`, `resolve` — the candidate for a tag, and the provider it makes
* `Registry` — the candidates with the providers that were resolved
* `Registry.get` — the one provider of a kind

## Main Results

* `Candidate.verdict_eq_fits_iff` — which candidates fit a tag
-/

namespace QuerySession

/-- A registered implementation. -/
structure Candidate where
  name : String
  tag : Option String
  factory : Option Factory
  deriving DecidableEq

namespace Candidate

/-- How a candidate fits a tag. -/
inductive Verdict where
  /-- It has no tag, or a blank one. -/
  | untagged
  /-- It has another tag. -/
  | different
  /-- It has the tag but cannot be made. -/
  | unbuildable
  /-- It has the tag and can be made. -/
  | fits (factory : Factory)
  deriving DecidableEq

/-- The tag, unless it is blank. -/
def tag? (c : Candidate) : Option String := c.tag.filter (!Text.allBlank ·)

/-- How a candidate fits a tag, up to ASCII case. -/
def verdict (tag : String) (c : Candidate) : Verdict :=
  match c.tag? with
  | none => .untagged
  | some own =>
    if !Text.equalUpToAsciiCase own tag then .different
    else match c.factory with
      | none => .unbuildable
      | some factory => .fits factory

/-- The candidates that fit, with their factories. -/
def matching (tag : String) (candidates : List Candidate) : List (String × Factory) :=
  candidates.filterMap fun c => match c.verdict tag with
    | .fits factory => some (c.name, factory)
    | _ => none

/-- A description for people. -/
def describe (c : Candidate) : String :=
  "ProviderCandidate \x7b name: " ++ Text.quoted c.name ++ ", type_tag: " ++
  (match c.tag with
    | some tag => "Some(" ++ Text.quoted tag ++ ")"
    | none => "None") ++
  ", has_factory: " ++ toString c.factory.isSome ++ " \x7d"

/-- A candidate fits exactly when it has a tag that is not blank and equal up to ASCII case, and a
factory. -/
theorem verdict_eq_fits_iff (tag : String) (c : Candidate) (factory : Factory) :
    c.verdict tag = .fits factory ↔
      ∃ own, c.tag = some own ∧ Text.allBlank own = false ∧
        Text.equalUpToAsciiCase own tag = true ∧ c.factory = some factory := by
  obtain ⟨name, ctag, cfactory⟩ := c
  cases ctag with
  | none => simp [verdict, tag?]
  | some own =>
    cases hb : Text.allBlank own
    · cases he : Text.equalUpToAsciiCase own tag
      · simp [verdict, tag?, Option.filter, hb, he]
      · cases cfactory <;> simp [verdict, tag?, Option.filter, hb, he]
    · simp [verdict, tag?, Option.filter, hb]

/-- The candidate that asks an HTTP endpoint. -/
def httpLogin : Candidate :=
  ⟨"CustomHttpAuthenticator", some "customAuthenticator", some .httpLogin⟩

/-- The candidate that adds no context. -/
def noContext : Candidate :=
  ⟨"NoopContextProvider", some ExtensionSelection.noContextTag, some .noContext⟩

end Candidate

/-- The tag that is chosen for a kind. -/
def SecuritySettings.tagOf (s : SecuritySettings) : ExtensionKind → String
  | .authenticator => s.authenticator.tag
  | .contextHandler => s.contextHandler.tag

variable {σ : Type}

namespace Resolution

/-- The one candidate that fits a tag, by its name and factory, or why there is none. -/
def select (kind : ExtensionKind) (tag : String) (candidates : List Candidate) :
    Except String (String × Factory) :=
  if Text.allBlank tag then .error ("No " ++ kind.describe ++ " type configured")
  else match Candidate.matching tag candidates with
    | [] => .error ("Failed to find the " ++ kind.describe ++ " implementation for type '" ++ tag ++
        "'")
    | [one] => .ok one
    | several => .error ("Type '" ++ tag ++ "' is claimed by several " ++ kind.describe ++
        " implementations: " ++ ", ".intercalate (several.map Prod.fst))

/-- What is said of a provider that could not be set up. -/
def setupFailed (kind : ExtensionKind) (name : String) : String :=
  "Failed to create and initialize the " ++ kind.describe ++ " '" ++ name ++ "'"

/-- The error of a tag without provider. -/
def failure (kind : ExtensionKind) (tag message : String) (cause : Cause) : Error :=
  .failed (.extensionUnresolved kind tag message)
    ((((Context.of "security_registry").during "resolve").noting "kind" kind.describe).suggesting
      "Check the configured type tag against the registered providers") cause

/-- Report the error of a tag without provider, and end with it. -/
def fail {α : Type} (kind : ExtensionKind) (tag message : String) (cause : Cause) :
    Attempt σ α := do
  .emit .error message [("kind", kind.describe), ("type_tag", tag)]
  .ofExcept (.error (failure kind tag message cause))

/-- Report a candidate that cannot be used. -/
def reportUnusable (kind : ExtensionKind) (tag : String) (c : Candidate) : Action σ Unit :=
  let fields := [("candidate", c.name), ("kind", kind.describe)]
  match c.verdict tag with
  | .untagged => emit .warn "Candidate has no type tag. Skipping." fields
  | .unbuildable => emit .warn "Candidate has no zero-argument constructor. Skipping." fields
  | .different | .fits _ => pure ()

/-- Report the candidates that cannot be used, all of them. -/
def lookThrough (kind : ExtensionKind) (tag : String) (candidates : List Candidate) :
    Action σ Unit :=
  if Text.allBlank tag then pure () else candidates.forM (reportUnusable kind tag)

/-- Make a provider from a candidate, and set it up. -/
def bringUp (providers : Providers σ) (kind : ExtensionKind) (tag : String) (settings : Settings)
    (name : String) (factory : Factory) : Attempt σ ProviderId := do
  let provider ← ExceptT.lift (providers.construct factory)
  match ← ExceptT.lift (providers.setup provider settings).outcome with
  | .error e => fail kind tag (setupFailed kind name) (.error e)
  | .ok () =>
    .emit .info "Security extension resolved"
      [("candidate", name), ("kind", kind.describe), ("type_tag", tag)]
    pure provider

end Resolution

/-- The provider of the one candidate that fits a tag, made and set up. -/
def resolve (providers : Providers σ) (kind : ExtensionKind) (tag : String)
    (candidates : List Candidate) (settings : Settings) : Attempt σ ProviderId := do
  ExceptT.lift (Resolution.lookThrough kind tag candidates)
  match Resolution.select kind tag candidates with
  | .error message => Resolution.fail kind tag message .unknown
  | .ok (name, factory) => Resolution.bringUp providers kind tag settings name factory

/-- The candidates, and the providers resolved so far. -/
structure Registry where
  authenticators : List Candidate
  contextHandlers : List Candidate
  authenticator : Option ProviderId
  contextHandler : Option ProviderId
  spans : List String
  deriving DecidableEq

namespace Registry

/-- No candidates. -/
def empty (spans : List String) : Registry := ⟨[], [], none, none, spans ++ ["security_registry"]⟩

/-- The candidates of this library. -/
def withBuiltin (spans : List String) : Registry :=
  { empty spans with
    authenticators := [Candidate.httpLogin], contextHandlers := [Candidate.noContext] }

/-- The candidates of a kind, in the order in which they were registered. -/
def candidates (r : Registry) : ExtensionKind → List Candidate
  | .authenticator => r.authenticators
  | .contextHandler => r.contextHandlers

/-- The provider of a kind, when it was resolved. -/
def provider? (r : Registry) : ExtensionKind → Option ProviderId
  | .authenticator => r.authenticator
  | .contextHandler => r.contextHandler

/-- Add a candidate. -/
def register (r : Registry) (kind : ExtensionKind) (c : Candidate) : Registry :=
  match kind with
  | .authenticator => { r with authenticators := r.authenticators ++ [c] }
  | .contextHandler => { r with contextHandlers := r.contextHandlers ++ [c] }

/-- Keep the provider of a kind. -/
def keep (r : Registry) (kind : ExtensionKind) (p : ProviderId) : Registry :=
  match kind with
  | .authenticator => { r with authenticator := some p }
  | .contextHandler => { r with contextHandler := some p }

/-- The one provider of a kind; resolved by the settings of the first call that succeeds. -/
def get (providers : Providers σ) (r : Registry) (kind : ExtensionKind) (settings : Settings) :
    Action σ (Except Error ProviderId × Registry) := do
  match r.provider? kind with
  | some p => pure (.ok p, r)
  | none =>
    match ← within r.spans (resolve providers kind (settings.security.tagOf kind)
        (r.candidates kind) settings).outcome with
    | .ok p => pure (.ok p, r.keep kind p)
    | .error e => pure (.error e, r)

end Registry

/-- Close a provider; a failure is reported and goes no further. -/
def closeReporting (providers : Providers σ) (kind : ExtensionKind) (p : ProviderId) :
    Action σ Unit := do
  match ← (providers.close p).outcome with
  | .ok () => pure ()
  | .error e =>
    emit .warn (match kind with
      | .authenticator => "Failed to close authenticator"
      | .contextHandler => "Failed to close context provider") [("error", e.message)]

/-- Close the providers that there are. -/
def closeProviders (providers : Providers σ) (authenticator contextHandler : Option ProviderId) :
    Action σ Unit := do
  match authenticator with
  | some p => closeReporting providers .authenticator p
  | none => pure ()
  match contextHandler with
  | some p => closeReporting providers .contextHandler p
  | none => pure ()

/-- Close the providers that were resolved. -/
def Registry.close (providers : Providers σ) (r : Registry) : Action σ Unit :=
  within r.spans
    (closeProviders providers (r.provider? .authenticator) (r.provider? .contextHandler))

end QuerySession
