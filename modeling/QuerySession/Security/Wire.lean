import QuerySession.Security.HttpLogin

/-!
# Endpoints of logins

What an endpoint sends, as it stands on the wire: the names of header fields come in letters of any
case, and a field may be repeated.  The exchanges with an endpoint can be put on record.  An
authenticator may be set up any number of times before it is asked for a login.

## Main Definitions

* `RawAnswer` — an answer as it is sent; `RawAnswer.read?`, `RawAnswer.last?`
* `Wire` — the way to an endpoint; `Wire.network` is the network that reads what comes
* `Tapped`, `Wire.tapped` — the outside with the exchanges so far, and the wire that keeps them
* `SetupCall`, `HttpLogin.setUpAll` — setups, one after the other
* `HttpLogin.trial` — a login after setups

## Main Results

* `Wire.network_eq` — what comes over the wire is read
* `Wire.tapped_eq` — tapping a wire changes nothing but the record
-/

namespace QuerySession

open Net

/-- An answer as it is sent. -/
structure RawAnswer where
  status : Nat
  /-- Names and values of header fields, the names in letters of any case. -/
  fields : List (String × String)
  deriving DecidableEq

namespace RawAnswer

/-- Whether all fields have names. -/
def wellNamed (a : RawAnswer) : Bool := a.fields.all fun field => isToken field.1.toList

/-- The answer as it is read, unless a field has something for a name that is none. -/
def read? (a : RawAnswer) : Option LoginAnswer :=
  if a.wellNamed then
    some ⟨a.status, a.fields.filterMap fun (name, value) =>
      (HeaderName.ofText? name).map (·, value)⟩
  else none

/-- The last value that stands under a name, in letters of any case. -/
def last? (a : RawAnswer) (name : String) : Option String :=
  ((a.fields.filter fun field => Text.equalUpToAsciiCase field.1 name).map (·.2)).getLast?

end RawAnswer

/-- The way to an endpoint. -/
structure Wire (σ : Type) where
  send : LoginRequest → Action σ (Option RawAnswer)

/-- The outside with the exchanges so far, oldest first: requests, with what came back. -/
structure Tapped (σ : Type) where
  outside : σ
  exchanges : List (LoginRequest × Option RawAnswer)

namespace Tapped

variable {σ : Type}

/-- The scene of a tapped outside before anything is on record. -/
def open_ (scene : Scene σ) : Scene (Tapped σ) := ⟨⟨scene.outside, []⟩, scene.events⟩

/-- The scene without the record. -/
def forget (scene : Scene (Tapped σ)) : Scene σ := ⟨scene.outside.outside, scene.events⟩

end Tapped

namespace Wire

variable {σ : Type}

/-- The network that reads what comes over the wire. -/
def network (wire : Wire σ) : Network σ where
  send request := do
    let answer ← wire.send request
    pure (answer.bind RawAnswer.read?)

/-- What comes over the wire is read. -/
theorem network_eq {wire : Wire σ} {request : LoginRequest} {answer : Option RawAnswer}
    {spans : List String} {scene after : Scene σ}
    (answered : (wire.send request) spans scene = (answer, after)) :
    (wire.network.send request) spans scene = (answer.bind RawAnswer.read?, after) := by
  have done : (wire.network.send request) spans scene =
      (fun result : Option RawAnswer × Scene σ => (result.1.bind RawAnswer.read?, result.2))
        ((wire.send request) spans scene) := rfl
  rw [done, answered]

/-- The same wire, with its exchanges put on record. -/
def tapped (wire : Wire σ) : Wire (Tapped σ) where
  send request := do
    let answer ← focus Tapped.outside (fun outside t => { t with outside }) (wire.send request)
    consult fun t => (answer, { t with exchanges := t.exchanges ++ [(request, answer)] })

/-- Whoever taps a wire sees what comes back, and puts it on record. -/
theorem tapped_eq {wire : Wire σ} {request : LoginRequest} {answer : Option RawAnswer}
    {spans : List String} {scene : Scene (Tapped σ)} {after : Scene σ}
    (answered : (wire.send request) spans (Tapped.forget scene) = (answer, after)) :
    (wire.tapped.send request) spans scene =
      (answer, ⟨⟨after.outside, scene.outside.exchanges ++ [(request, answer)]⟩, after.events⟩) := by
  have done : (wire.tapped.send request) spans scene =
      (fun result : Option RawAnswer × Scene σ => (result.1, (⟨⟨result.2.outside,
        scene.outside.exchanges ++ [(request, result.1)]⟩, result.2.events⟩ : Scene (Tapped σ))))
        ((wire.send request) spans (Tapped.forget scene)) := rfl
  rw [done, answered]

end Wire

/-- One setup of an authenticator. -/
structure SetupCall where
  settings : Settings
  /-- Why no client can be made for the endpoint, if none can. -/
  clientFault : Option String

namespace HttpLogin

variable {σ : Type}

/-- Set up as often as it is asked for. -/
def setUpAll (parser : UrlParser) (h : HttpLogin) : List SetupCall → Action σ HttpLogin
  | [] => pure h
  | call :: calls => do
    let (_, h) ← h.setupWith parser call.clientFault call.settings
    h.setUpAll parser calls

/-- A login with a fresh authenticator, after setups. -/
def trial (parser : UrlParser) (network : Network σ) (calls : List SetupCall)
    (user password : String) : Attempt σ (List OptionValue) := do
  let h ← ExceptT.lift (fresh.setUpAll parser calls)
  h.authenticate network user password

end HttpLogin

end QuerySession
