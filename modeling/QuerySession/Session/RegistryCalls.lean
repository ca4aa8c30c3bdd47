import QuerySession.Session.Establish

/-!
# Overlapping calls on a registry

Connections come at the same time, and the first of them find no provider resolved.  A call runs up
to a point at which it has to wait: for another call that sets a provider of the same kind up, for
the provider that it sets up itself, or for one that it closes.  Other calls run meanwhile, and
candidates may be registered.  This module is the machine of these calls; a call that has the
machine for itself does what `Registry.get`, `Establisher.ofRegistry` and `Registry.close` do.

## Main Definitions

* `RegistryCalls.Request`, `RegistryCalls.Stage` — what a call asks for, and how far it has come
* `RegistryCalls.Happening` — what can be seen of a step
* `RegistryCalls` — the registry, the calls on it, and what has happened so far
* `RegistryCalls.Move`, `RegistryCalls.step`, `RegistryCalls.run` — one step, and a schedule of
  steps

## Design Notes

One provider of a kind is set up at a time.  The other calls that need one wait, and look again when
that is over; who goes first then is not decided here.

Providers may answer anything, and the answers are part of the moves.  A factory makes a new
provider each time, so a move that makes a provider names one that was not made before.

Candidates can be registered at any moment, also while calls wait.
-/

namespace QuerySession

namespace RegistryCalls

/-- What a call asks for. -/
inductive Request where
  /-- The provider of a kind. -/
  | get (kind : ExtensionKind) (settings : Settings)
  /-- An establisher. -/
  | establish (settings : Settings) (spans : List String)
  /-- The end of the providers. -/
  | close
  deriving DecidableEq

/-- What a provider is needed for. -/
inductive Aim where
  /-- It is asked for. -/
  | get (kind : ExtensionKind)
  /-- An establisher needs its authenticator. -/
  | authenticator (spans : List String)
  /-- An establisher has its authenticator, and needs its context provider. -/
  | contextHandler (authenticator : ProviderId) (spans : List String)
  deriving DecidableEq

/-- The kind of the provider that is needed. -/
def Aim.kind : Aim → ExtensionKind
  | get kind => kind
  | authenticator _ => .authenticator
  | contextHandler .. => .contextHandler

/-- How far a call has come. -/
inductive Stage where
  /-- Needs a provider. -/
  | asking (aim : Aim) (settings : Settings)
  /-- Has made a provider from the candidate `name`, and is setting it up. -/
  | setting (aim : Aim) (settings : Settings) (name : String) (p : ProviderId)
  /-- Asked for a provider, and returned. -/
  | got (kind : ExtensionKind) (result : Except Error ProviderId)
  /-- Asked for an establisher, and returned. -/
  | established (result : Except Error Establisher)
  /-- Comes to the provider of a kind, to close it if there is one. -/
  | closing (kind : ExtensionKind)
  /-- The provider is closing. -/
  | releasing (kind : ExtensionKind) (p : ProviderId)
  /-- Asked for the end of the providers, and returned. -/
  | closed

/-- What can be seen of a step. -/
inductive Happening where
  | called (call : Nat) (request : Request)
  | registered (kind : ExtensionKind) (c : Candidate)
  /-- The provider is there already. -/
  | found (call : Nat) (kind : ExtensionKind) (p : ProviderId)
  /-- There is not one candidate that fits. -/
  | unmatched (call : Nat) (kind : ExtensionKind) (settings : Settings) (message : String)
  /-- A provider was made, and its setup was begun. -/
  | made (call : Nat) (kind : ExtensionKind) (settings : Settings) (name : String)
      (factory : Factory) (p : ProviderId)
  | setUp (call : Nat) (kind : ExtensionKind) (p : ProviderId) (answer : Except Error Unit)
  /-- There is no provider to close. -/
  | passed (call : Nat) (kind : ExtensionKind)
  | closeSent (call : Nat) (kind : ExtensionKind) (p : ProviderId)
  | closeAnswered (call : Nat) (kind : ExtensionKind) (p : ProviderId) (answer : Except Error Unit)

/-- One step of a schedule. -/
inductive Move where
  /-- A new call. -/
  | call (request : Request)
  /-- A candidate is registered. -/
  | register (kind : ExtensionKind) (c : Candidate)
  /-- A call goes on by itself, without making a provider. -/
  | proceed (call : Nat)
  /-- A call makes the provider `p`. -/
  | make (call : Nat) (p : ProviderId)
  /-- The provider of a call answers. -/
  | answer (call : Nat) (answer : Except Error Unit)

namespace Stage

/-- Where a call begins. -/
def first : Request → Stage
  | .get kind settings => asking (.get kind) settings
  | .establish settings spans => asking (.authenticator spans) settings
  | .close => closing .authenticator

/-- Whether a call is setting up a provider of a kind. -/
def sets (kind : ExtensionKind) : Stage → Bool
  | setting aim .. => aim.kind = kind
  | _ => false

/-- What a call does with the provider that it needed, or without it. -/
def after (settings : Settings) : Aim → Except Error ProviderId → Stage
  | .get kind, result => got kind result
  | .authenticator spans, .ok p => asking (.contextHandler p spans) settings
  | .contextHandler authenticator spans, .ok p =>
    established (.ok (Establisher.make authenticator (some p) settings.security.contextLoadPolicy
      spans))
  | .authenticator _, .error e | .contextHandler .., .error e => established (.error e)

/-- What a call closes next. -/
def afterClose : ExtensionKind → Stage
  | .authenticator => closing .contextHandler
  | .contextHandler => closed

end Stage

/-- The error of a call without a candidate that fits. -/
def unmatchedError (kind : ExtensionKind) (settings : Settings) (message : String) : Error :=
  Resolution.failure kind (settings.security.tagOf kind) message .unknown

/-- What comes of a provider, by what its setup answers. -/
def setUpResult (kind : ExtensionKind) (settings : Settings) (name : String) (p : ProviderId) :
    Except Error Unit → Except Error ProviderId
  | .ok () => .ok p
  | .error e => .error (Resolution.failure kind (settings.security.tagOf kind)
      (Resolution.setupFailed kind name) (.error e))

namespace Happening

/-- Whose step it was, if it was one of a call. -/
def caller? : Happening → Option Nat
  | registered .. => none
  | called i _ | found i .. | unmatched i .. | made i .. | setUp i .. | passed i _ | closeSent i ..
  | closeAnswered i .. => some i

/-- The provider that was made. -/
def makes? : Happening → Option ProviderId
  | made _ _ _ _ _ p => some p
  | _ => none

/-- What becomes of the registry. -/
def effect (r : Registry) : Happening → Registry
  | registered kind c => r.register kind c
  | setUp _ kind p (.ok ()) => r.keep kind p
  | _ => r

end Happening

end RegistryCalls

/-- A registry, the calls on it in the order in which they were made, and what has happened so far,
oldest first. -/
structure RegistryCalls where
  registry : Registry
  stages : List RegistryCalls.Stage
  history : List RegistryCalls.Happening

namespace RegistryCalls

/-- Candidates were registered, and nobody has called yet. -/
def opening (offered : ExtensionKind → List Candidate) (spans : List String) : RegistryCalls :=
  ⟨⟨offered .authenticator, offered .contextHandler, none, none, spans⟩, [], []⟩

/-- The calls that are setting up a provider of a kind. -/
def setters (t : RegistryCalls) (kind : ExtensionKind) : Nat := t.stages.countP (Stage.sets kind)

/-- The providers that were made. -/
def made (h : List Happening) : List ProviderId := h.filterMap Happening.makes?

/-- The candidate for a kind, as the settings choose it among those that are registered now. -/
def select (t : RegistryCalls) (kind : ExtensionKind) (settings : Settings) :
    Except String (String × Factory) :=
  Resolution.select kind (settings.security.tagOf kind) (t.registry.candidates kind)

/-- A call was made. -/
def join (t : RegistryCalls) (request : Request) : RegistryCalls :=
  { t with
    stages := t.stages ++ [Stage.first request]
    history := t.history ++ [.called t.stages.length request] }

/-- A candidate was registered. -/
def enlist (t : RegistryCalls) (kind : ExtensionKind) (c : Candidate) : RegistryCalls :=
  { t with
    registry := t.registry.register kind c
    history := t.history ++ [.registered kind c] }

/-- Call `i` came to a stage. -/
def put (t : RegistryCalls) (i : Nat) (stage : Stage) (happening : Happening) : RegistryCalls :=
  ⟨happening.effect t.registry, t.stages.set i stage, t.history ++ [happening]⟩

/-- Call `i` goes on by itself, unless it has to wait or to make a provider. -/
def proceed (t : RegistryCalls) (i : Nat) : Stage → Option RegistryCalls
  | .asking aim settings =>
    match t.registry.provider? aim.kind with
    | some p => some (t.put i (.after settings aim (.ok p)) (.found i aim.kind p))
    | none =>
      if t.setters aim.kind ≠ 0 then none
      else match t.select aim.kind settings with
        | .error message =>
          some (t.put i (.after settings aim (.error (unmatchedError aim.kind settings message)))
            (.unmatched i aim.kind settings message))
        | .ok _ => none
  | .closing kind =>
    match t.registry.provider? kind with
    | some p => some (t.put i (.releasing kind p) (.closeSent i kind p))
    | none => some (t.put i (.afterClose kind) (.passed i kind))
  | .setting .. | .got .. | .established _ | .releasing .. | .closed => none

/-- Call `i` makes the provider `p`, if it has to and `p` is new. -/
def make (t : RegistryCalls) (i : Nat) (p : ProviderId) : Stage → Option RegistryCalls
  | .asking aim settings =>
    if t.registry.provider? aim.kind ≠ none ∨ t.setters aim.kind ≠ 0 ∨ p ∈ made t.history then none
    else match t.select aim.kind settings with
      | .error _ => none
      | .ok (name, factory) =>
        some (t.put i (.setting aim settings name p) (.made i aim.kind settings name factory p))
  | _ => none

/-- The provider that call `i` waits for answers. -/
def hear (t : RegistryCalls) (i : Nat) (answer : Except Error Unit) : Stage → Option RegistryCalls
  | .setting aim settings name p =>
    some (t.put i (.after settings aim (setUpResult aim.kind settings name p answer))
      (.setUp i aim.kind p answer))
  | .releasing kind p => some (t.put i (.afterClose kind) (.closeAnswered i kind p answer))
  | _ => none

/-- One step, if it can be made. -/
def step (t : RegistryCalls) : Move → Option RegistryCalls
  | .call request => some (t.join request)
  | .register kind c => some (t.enlist kind c)
  | .proceed i => t.stages[i]?.bind (t.proceed i)
  | .make i p => t.stages[i]?.bind (t.make i p)
  | .answer i answer => t.stages[i]?.bind (t.hear i answer)

/-- A schedule of steps, if all of them can be made. -/
def run (t : RegistryCalls) (moves : List Move) : Option RegistryCalls := moves.foldlM step t

end RegistryCalls

end QuerySession
