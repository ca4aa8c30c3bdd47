import QuerySession.Error.Basic
import QuerySession.Text.Blank
import QuerySession.Text.LowerCase

/-!
# Settings

What the server is configured with: which providers authenticate and enrich sessions, where
temporary tables live, and how events are logged.

## Main Definitions

* `Settings` — all settings; `Settings.default` — what holds when nothing is configured
* `Settings.validate` — whether settings can be used
* `TemporarySettings.isTemporaryWorkspace`
-/

namespace QuerySession

/-- What to do when the context of a session cannot be loaded. -/
inductive ContextLoadPolicy where
  /-- Refuse the connection. -/
  | fail
  /-- Report it and go on without the context. -/
  | warn
  deriving DecidableEq

/-- What to do with a login that succeeds without a session token. -/
inductive MissingTokenPolicy where
  /-- Let it in, without attributes. -/
  | accept
  /-- Treat it as a failed login. -/
  | reject
  deriving DecidableEq

/-- The format of the log. -/
inductive LogFormat where
  | json
  | pretty
  | compact
  deriving DecidableEq

/-- The choice of an implementation by its type tag. -/
structure ExtensionSelection where
  tag : String
  deriving DecidableEq

/-- Where and how the HTTP authenticator asks. -/
structure EndpointSettings where
  protocol : String
  url : String
  userHeader : String
  passwordHeader : String
  sessionIdHeader : String
  timeoutSeconds : Nat
  deriving DecidableEq

/-- The settings of the providers. -/
structure SecuritySettings where
  contextLoadPolicy : ContextLoadPolicy
  missingTokenPolicy : MissingTokenPolicy
  authenticator : ExtensionSelection
  contextHandler : ExtensionSelection
  endpoint : EndpointSettings
  /-- Settings of other providers, by name. -/
  extra : Keyed String String
  deriving DecidableEq

/-- Where temporary tables live. -/
structure TemporarySettings where
  /-- The dotted name of a schema. -/
  workspace : String
  deriving DecidableEq

/-- How events are logged. -/
structure LoggingSettings where
  level : String
  format : LogFormat
  includeLocation : Bool
  includeThread : Bool
  logSpanClose : Bool
  /-- A file to append to; standard output when there is none. -/
  filePath : Option String
  directives : List String
  deriving DecidableEq

/-- All settings of the server. -/
structure Settings where
  security : SecuritySettings
  temporary : TemporarySettings
  logging : LoggingSettings
  deriving DecidableEq

/-- The type tag of the context provider that adds nothing. -/
def ExtensionSelection.noContextTag : String := "default"

/-- Plain HTTP to nowhere, with thirty seconds to answer. -/
def EndpointSettings.default : EndpointSettings where
  protocol := "http://"
  url := ""
  userHeader := "X-User"
  passwordHeader := "X-Password"
  sessionIdHeader := "X-Session-Id"
  timeoutSeconds := 30

/-- No authenticator, and no context. -/
def SecuritySettings.default : SecuritySettings where
  contextLoadPolicy := .fail
  missingTokenPolicy := .accept
  authenticator := ⟨""⟩
  contextHandler := ⟨ExtensionSelection.noContextTag⟩
  endpoint := .default
  extra := .empty

/-- The workspace `dfs.tmp`. -/
def TemporarySettings.default : TemporarySettings := ⟨"dfs.tmp"⟩

/-- Everything from the level INFO on, one line each. -/
def LoggingSettings.default : LoggingSettings where
  level := "info"
  format := .compact
  includeLocation := false
  includeThread := true
  logSpanClose := false
  filePath := none
  directives := ["tessera_core=info", "tessera_security=info", "tessera_session=info"]

/-- What holds when nothing is configured. -/
def Settings.default : Settings := ⟨.default, .default, .default⟩

/-- Whether a schema is the temporary workspace, up to ASCII case. -/
def TemporarySettings.isTemporaryWorkspace (t : TemporarySettings) (schema : String) : Bool :=
  t.workspace ≠ "" && Text.equalUpToAsciiCase t.workspace schema

namespace Settings

/-- The error of unusable settings found during `operation`. -/
def failure (operation message suggestion : String) (cause : Cause) : Error :=
  .failed (.settings message)
    (((Context.of "config").during operation).suggesting suggestion) cause

/-- Settings can be used when the temporary workspace has a name and logins have time to be
answered. -/
def validate (s : Settings) : Except Error Unit :=
  if Text.allBlank s.temporary.workspace then
    .error (failure "validate" "temporary.workspace must not be empty"
      "Set temporary.workspace to a writable schema, e.g. dfs.tmp" .unknown)
  else if s.security.endpoint.timeoutSeconds = 0 then
    .error (failure "validate" "custom_authenticator.timeout_seconds must be greater than 0"
      "Set a positive request timeout" .unknown)
  else .ok ()

end Settings

end QuerySession
