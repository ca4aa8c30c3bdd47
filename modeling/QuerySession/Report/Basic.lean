import QuerySession.Json.Forms
import QuerySession.Log.Event

/-!
# Reports

Documents that tell people what happened. They are written and never read back, so they may leave
things out: the identifiers and moments of errors, and what a parser or the network adds to a
message.

## Main Definitions

* `Error.toReport`, `Event.toReport`, `OptionValue.toReport`, `StoragePath.toReport`
-/

namespace QuerySession

open Codec

namespace Report

/-- The first of `starts` that a text begins with, or else the whole text. -/
def cutAfter (starts : List String) (text : String) : String :=
  (starts.find? fun start => start.toList.isPrefixOf text.toList).getD text

/-- The first of `starts` that a text begins with when a colon follows, or else the whole text. -/
def cutBeforeColon (starts : List String) (text : String) : String :=
  (starts.find? fun start => (start ++ ":").toList.isPrefixOf text.toList).getD text

end Report

/-- The kind of a reason, in one word. -/
def Reason.kindName : Reason → String
  | loginRejected _ => "AuthenticationFailed"
  | extensionUnresolved .. => "SecurityExtensionResolution"
  | providerStartup _ => "ProviderStartup"
  | contextLoad .. => "ContextLoad"
  | schemaUnknown _ => "SchemaResolution"
  | unauthorized _ => "UnauthorizedOperation"
  | locationMissing _ => "StorageProvisioning"
  | storage _ => "Storage"
  | settings _ => "Config"
  | invalid .. => "Validation"
  | internal _ => "Internal"

/-- The circumstances as a document. -/
def Context.toReport (c : Context) : Json := .obj [
  ("component", .str c.component),
  ("operation", .strOrNull c.operation),
  ("metadata", ofTextsByName c.metadata),
  ("suggestions", ofTexts c.suggestions)]

namespace Error

/-- The kind of an error, in one word. -/
def kindName : Error → String
  | .failed reason _ _ => reason.kindName
  | .system _ => "Io"
  | .unreadable => "Serialization"

/-- The wording, without what a parser of settings says. -/
def summary (e : Error) : String :=
  Report.cutAfter ["Configuration error: Failed to parse config",
    "Configuration error: Failed to serialize config"] e.message

end Error

/-- What lies behind an error, as a document. -/
def Cause.toReport : Cause → Json
  | .unknown => .null
  | .error e => .obj [("error", .str e.kindName), ("message", .str e.summary)]
  | .system text => .obj [("text", .str text)]
  | .foreign => .obj [("foreign", .bool true)]

/-- What only errors of some kinds tell. -/
def Reason.details : Reason → List (String × Json)
  | invalid _ field => [("field", .strOrNull field)]
  | extensionUnresolved kind tag _ => [("kind", .str kind.name), ("type_tag", .str tag)]
  | _ => []

/-- The members of a document about an error. -/
def Error.toReport (e : Error) : List (String × Json) :=
  [("error", .str e.kindName),
    ("message", .str e.summary),
    ("recoverable", .bool e.isRecoverable),
    ("startup_fatal", .bool e.isStartupFatal),
    ("source", e.cause.toReport),
    ("context", match e.context? with
      | some c => c.toReport
      | none => .null)] ++
  match e.reason? with
  | some reason => reason.details
  | none => []

/-- An event as a document, without what the network or a parser says. -/
def Event.toReport (e : Event) : Json := .obj [
  ("level", .str e.level.name),
  ("message", .str e.message),
  ("fields", .obj (e.fields.map fun f =>
    (f.1, .str (Report.cutBeforeColon ["request failed", "Serialization error"] f.2)))),
  ("spans", ofTexts e.spans)]

/-- The kind of a content, in one word. -/
def OptionContent.kindName : OptionContent → String
  | flag _ => "Bool"
  | whole _ => "Long"
  | real _ => "Double"
  | text _ => "String"

/-- An option as a document, with its content as plain text. -/
def OptionValue.toReport (v : OptionValue) : Json := .obj [
  ("scope", .str v.scope.name),
  ("name", .str v.name),
  ("kind", .str v.content.kindName),
  ("value", .str v.content.toText)]

/-- A path with its written forms. -/
def StoragePath.toReport (p : StoragePath) : Json := .obj [
  ("scheme", .str p.scheme),
  ("root", .str p.root),
  ("segments", ofTexts p.segments),
  ("path", .str p.path),
  ("display", .str p.toText),
  ("file_name", .strOrNull p.fileName?)]

end QuerySession
