import QuerySession.Keyed

/-!
# Errors

Why an operation failed: a reason, the component that failed with what it knows about the
circumstances, and the underlying cause if there is one. Two kinds of failure carry no
circumstances, since they come from below: the operating system's, and documents that cannot be
read.

## Main Definitions

* `Reason` — what went wrong
* `Context` — where, with metadata and suggestions
* `Error` and `Cause` — a failure, and what lies behind it
* `Error.message`, `Error.isRecoverable`, `Error.isStartupFatal`
-/

namespace QuerySession

/-- Which extension point a provider serves. -/
inductive ExtensionKind where
  | authenticator
  | contextHandler
  deriving DecidableEq

/-- The kind in a sentence. -/
def ExtensionKind.describe : ExtensionKind → String
  | .authenticator => "authenticator"
  | .contextHandler => "context handler"

/-- What went wrong. -/
inductive Reason where
  /-- The same for every way in which a login may fail. -/
  | loginRejected (user : String)
  | extensionUnresolved (kind : ExtensionKind) (tag message : String)
  | providerStartup (message : String)
  | contextLoad (sessionId message : String)
  | schemaUnknown (path : String)
  | unauthorized (message : String)
  | locationMissing (path : String)
  | storage (message : String)
  | settings (message : String)
  | invalid (message : String) (field : Option String)
  | internal (message : String)
  deriving DecidableEq

/-- Where an error arose and what may help. -/
structure Context where
  component : String
  operation : Option String
  metadata : Keyed String String
  suggestions : List String
  deriving DecidableEq

namespace Context

/-- Nothing known but the component. -/
def of (component : String) : Context := ⟨component, none, .empty, []⟩

/-- Name the operation. -/
def during (c : Context) (operation : String) : Context := { c with operation := some operation }

/-- Note a circumstance; the last note of a name stays. -/
def noting (c : Context) (name value : String) : Context :=
  { c with metadata := c.metadata.put name value }

/-- Add a suggestion behind the others. -/
def suggesting (c : Context) (text : String) : Context :=
  { c with suggestions := c.suggestions ++ [text] }

end Context

mutual

/-- A failed operation. -/
inductive Error where
  | failed (reason : Reason) (context : Context) (cause : Cause)
  /-- The operating system refused, in its own words. -/
  | system (text : String)
  /-- A document could not be read. -/
  | unreadable

/-- What lies behind an error. -/
inductive Cause where
  | unknown
  | error (e : Error)
  /-- The operating system refused, in its own words. -/
  | system (text : String)
  /-- Something outside of the errors known here. -/
  | foreign

end

namespace Reason

/-- The wording. -/
def message : Reason → String
  | loginRejected user => "Authentication of '" ++ user ++ "' failed."
  | extensionUnresolved kind tag message =>
    "Failed to resolve " ++ kind.describe ++ " implementation for type '" ++ tag ++ "': " ++ message
  | providerStartup message => "Provider startup error: " ++ message
  | contextLoad sessionId message =>
    "Context load error for session " ++ sessionId ++ ": " ++ message
  | schemaUnknown path =>
    "Schema [" ++ path ++
      "] is not valid with respect to either root schema or current default schema"
  | unauthorized message => "Unauthorized operation: " ++ message
  | locationMissing path => "Temporary location should exist [" ++ path ++ "]"
  | storage message => "Storage error: " ++ message
  | settings message => "Configuration error: " ++ message
  | invalid message _ => "Validation error: " ++ message
  | internal message => "Internal error: " ++ message

/-- Whether the server can keep serving. -/
def isRecoverable : Reason → Bool
  | loginRejected _ | schemaUnknown _ | unauthorized _ | locationMissing _ | storage _ => true
  | extensionUnresolved .. | providerStartup _ | contextLoad .. | settings _ | invalid ..
  | internal _ => false

/-- Whether the server must not start. -/
def isStartupFatal : Reason → Bool
  | extensionUnresolved .. | providerStartup _ | settings _ => true
  | loginRejected _ | contextLoad .. | schemaUnknown _ | unauthorized _ | locationMissing _
  | storage _ | invalid .. | internal _ => false

end Reason

namespace Error

/-- A failure without a cause of its own. -/
def plain (reason : Reason) (context : Context) : Error := .failed reason context .unknown

/-- The reason, unless the error comes from below. -/
def reason? : Error → Option Reason
  | .failed reason _ _ => some reason
  | .system _ | .unreadable => none

/-- The circumstances, unless the error comes from below. -/
def context? : Error → Option Context
  | .failed _ context _ => some context
  | .system _ | .unreadable => none

/-- What lies behind. -/
def cause : Error → Cause
  | .failed _ _ cause => cause
  | .system text => .system text
  | .unreadable => .foreign

/-- The wording. -/
def message : Error → String
  | .failed reason _ _ => reason.message
  | .system text => "IO error: " ++ text
  | .unreadable => "Serialization error"

/-- Whether the server can keep serving after the error. -/
def isRecoverable (e : Error) : Bool := e.reason?.any Reason.isRecoverable

/-- Whether the error must keep the server from starting. -/
def isStartupFatal (e : Error) : Bool := e.reason?.any Reason.isStartupFatal

/-! ### Errors of common kinds -/

/-- The one answer to every login that fails, whatever the cause. -/
def loginRejected (user component : String) : Error :=
  plain (.loginRejected user)
    (((Context.of component).during "authenticate").suggesting
      "Retry with different credentials")

/-- An operation that its caller may not do. -/
def unauthorized (message component : String) : Error :=
  plain (.unauthorized message) (.of component)

/-- A provider that cannot start. -/
def providerStartup (message : String) (cause : Cause) (component : String) : Error :=
  .failed (.providerStartup message)
    (((Context.of component).during "setup").suggesting
      "Check the provider section of the server configuration") cause

/-- Unusable settings. -/
def settings (message component : String) (cause : Cause) : Error :=
  .failed (.settings message)
    ((Context.of component).suggesting "Check your server configuration file") cause

/-- An unusable value of a field. -/
def invalid (message field component : String) : Error :=
  plain (.invalid message (some field))
    ((Context.of component).suggesting "Check the field value and format")

/-- A storage that failed. -/
def storage (message component : String) (cause : Cause) : Error :=
  .failed (.storage message) (.of component) cause

end Error

end QuerySession
