import QuerySession.Action
import QuerySession.Net.Header
import QuerySession.Net.Url
import QuerySession.Options.Basic
import QuerySession.Settings.Basic

/-!
# The HTTP authenticator

Credentials are sent to an external endpoint as header fields of a request, and the external
session's id comes back in a header field of the answer. It is handed on as an option of the
session.

## Main Definitions

* `Endpoint` — what a successful setup leaves; `Endpoint.ofSettings`
* `LoginFault` — why a login fails; only the server's log tells
* `judge` — the decision about an answer
* `HttpLogin` — the authenticator; `HttpLogin.setupWith`, `HttpLogin.authenticate`

## Design Notes

A setup that fails leaves the endpoint of an earlier one in place. Every login that fails ends in
the same error, whatever its fault.

The parser of addresses and the network come from outside, and so does the fault, if any, for which
no client can be made. A request is what the client is handed: an address stays whole, and it is the
client that sends user information in it as a header field of its own.
-/

namespace QuerySession

open Net

/-- The component in errors. -/
def HttpLogin.component : String := "http_authenticator"

/-- The option under which the external session's id is handed on. -/
def HttpLogin.tokenOption : String := "security.user.auth.custom_authenticator_session_id"

/-- Where and how logins are asked for. -/
structure Endpoint where
  address : Url
  timeoutSeconds : Nat
  userHeader : HeaderName
  passwordHeader : HeaderName
  tokenHeader : HeaderName
  missingToken : MissingTokenPolicy
  deriving DecidableEq

/-- A request for a login, as the client is handed it. -/
structure LoginRequest where
  /-- The whole address, user information included. -/
  address : Url
  timeoutSeconds : Nat
  /-- Names and values of header fields. -/
  headers : List (HeaderName × String)
  deriving DecidableEq

/-- The answer to a request, after all redirections. -/
structure LoginAnswer where
  status : Nat
  headers : List (HeaderName × String)
  deriving DecidableEq

/-- The network outside: an answer, or none. -/
structure Network (σ : Type) where
  send : LoginRequest → Action σ (Option LoginAnswer)

/-- Why a login fails. -/
inductive LoginFault where
  | badUser
  | badPassword
  | unanswered
  | status (code : Nat)
  | unreadableToken
  | missingToken
  deriving DecidableEq

/-- The wording, for the server's log. -/
def LoginFault.message : LoginFault → String
  | badUser => "bad user header: failed to parse header value"
  | badPassword => "bad password header: failed to parse header value"
  | unanswered => "request failed"
  | status code => "endpoint answered HTTP " ++ toString code
  | unreadableToken => "unreadable session id header: failed to convert header to a str"
  | missingToken => "missing session id header"

namespace Endpoint

/-- The name of a header field, from the settings' member `key`. -/
def headerName (value key : String) : Except Error HeaderName :=
  match HeaderName.ofText? value with
  | some name => .ok name
  | none => .error (.providerStartup
      ("Invalid header name '" ++ value ++ "' for custom_authenticator." ++ key) .foreign
      HttpLogin.component)

/-- The address in the settings as it is written. -/
def written (s : EndpointSettings) : String := s.protocol ++ s.url

/-- The endpoint that settings describe, unless no client can be made for it; then `clientFault` is
why. -/
def ofSettings (parser : UrlParser) (clientFault : Option String) (s : SecuritySettings) :
    Except Error Endpoint := do
  let e := s.endpoint
  match parser.parse (written e) with
  | .error fault =>
    .error (.failed (.providerStartup
        ("Invalid authenticator endpoint '" ++ written e ++ "': " ++ fault))
      (((Context.of HttpLogin.component).during "setup").suggesting
        "Set custom_authenticator.protocol and custom_authenticator.url") .foreign)
  | .ok address =>
    if e.timeoutSeconds = 0 then
      .error (.providerStartup "custom_authenticator.timeout_seconds must be greater than 0"
        .unknown HttpLogin.component)
    else match clientFault with
      | some fault => .error (.providerStartup ("Failed to create HTTP client: " ++ fault) .foreign
          HttpLogin.component)
      | none =>
        -- The first fault in this order is the one that is told.
        let userHeader ← headerName e.userHeader "user_header"
        let passwordHeader ← headerName e.passwordHeader "password_header"
        let tokenHeader ← headerName e.sessionIdHeader "session_id_header"
        .ok ⟨address, e.timeoutSeconds, userHeader, passwordHeader, tokenHeader,
          s.missingTokenPolicy⟩

/-- The request that asks for a login. -/
def request (e : Endpoint) (user password : String) : Except LoginFault LoginRequest :=
  if !isHeaderValue user then .error .badUser
  else if !isHeaderValue password then .error .badPassword
  else .ok ⟨e.address, e.timeoutSeconds, [(e.userHeader, user), (e.passwordHeader, password)]⟩

/-- The last value of the token's header field in an answer. -/
def lastToken? (e : Endpoint) (a : LoginAnswer) : Option String :=
  ((a.headers.filter (·.1 = e.tokenHeader)).getLast?).map (·.2)

/-- The token in an answer that lets the user in, which may do without one. -/
def judge (e : Endpoint) (a : LoginAnswer) : Except LoginFault (Option String) :=
  if a.status < 200 ∨ 300 ≤ a.status then .error (.status a.status)
  else match e.lastToken? a with
    | some token => if isReadable token then .ok (some token) else .error .unreadableToken
    | none => match e.missingToken with
      | .accept => .ok none
      | .reject => .error .missingToken

end Endpoint

/-- The authenticator: its endpoint, once it is set up. -/
structure HttpLogin where
  endpoint : Option Endpoint
  deriving DecidableEq

namespace HttpLogin

variable {σ : Type}

/-- An authenticator that is not set up. -/
def fresh : HttpLogin := ⟨none⟩

/-- Set up from settings, unless no client can be made; on failure the authenticator stays as it
is. -/
def setupWith (parser : UrlParser) (clientFault : Option String) (h : HttpLogin)
    (settings : Settings) : Action σ (Except Error Unit × HttpLogin) := do
  match Endpoint.ofSettings parser clientFault settings.security with
  | .error e => pure (.error e, h)
  | .ok endpoint => do
    emit .info "HTTP authenticator configured"
      [("endpoint", Endpoint.written settings.security.endpoint)]
    pure (.ok (), ⟨some endpoint⟩)

/-- The attributes of a user who was let in. -/
def attributes : Option String → List OptionValue
  | some token => [⟨.session, tokenOption, .text token⟩]
  | none => []

/-- Ask the endpoint for a login. -/
def ask (network : Network σ) (e : Endpoint) (user password : String) :
    Action σ (Except LoginFault (Option String)) := do
  match e.request user password with
  | .error fault => pure (.error fault)
  | .ok request =>
    match ← network.send request with
    | none => pure (.error .unanswered)
    | some answer => pure (e.judge answer)

/-- The attributes of a user whom the endpoint lets in. -/
def authenticate (network : Network σ) (h : HttpLogin) (user password : String) :
    Attempt σ (List OptionValue) := do
  match h.endpoint with
  | none => .ofExcept (.error (.plain (.internal "HTTP authenticator used before setup")
      ((Context.of component).during "authenticate")))
  | some e =>
    match ← ExceptT.lift (ask network e user password) with
    | .error fault =>
      .emit .warn "Authentication failed" [("user", user), ("reason", fault.message)]
      .ofExcept (.error (.loginRejected user component))
    | .ok token =>
      .emit .debug (match token with
        | some _ => "Authentication succeeded"
        | none => "Authentication succeeded without a session id") [("user", user)]
      pure (attributes token)

end HttpLogin

end QuerySession
