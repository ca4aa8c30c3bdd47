import QuerySession.Json.Forms
import QuerySession.Settings.Basic

/-!
# Document form of settings

Every part of the settings may be left out and then has its default.

## Main Definitions

* `Settings.codec`, `LoggingSettings.codec` — the document forms
-/

namespace QuerySession

open Codec

/-- The written name of a context load policy. -/
def ContextLoadPolicy.name : ContextLoadPolicy → String
  | .fail => "fail"
  | .warn => "warn"

/-- Context load policies are written by name. -/
def ContextLoadPolicy.codec : Codec ContextLoadPolicy :=
  named [.fail, .warn] ContextLoadPolicy.name

/-- The written name of a missing token policy. -/
def MissingTokenPolicy.name : MissingTokenPolicy → String
  | .accept => "accept"
  | .reject => "reject"

/-- Missing token policies are written by name. -/
def MissingTokenPolicy.codec : Codec MissingTokenPolicy :=
  named [.accept, .reject] MissingTokenPolicy.name

/-- The written name of a log format. -/
def LogFormat.name : LogFormat → String
  | .json => "json"
  | .pretty => "pretty"
  | .compact => "compact"

/-- Log formats are written by name. -/
def LogFormat.codec : Codec LogFormat := named [.json, .pretty, .compact] LogFormat.name

/-- A selection is a record of the type tag, empty when absent. -/
def ExtensionSelection.codec : Codec ExtensionSelection where
  shape := .record [("type", .defaulted, .anyText)]
  decode v := do pure ⟨← memberD "type" Json.str? "" v⟩
  encode s := .obj [("type", .str s.tag)]

/-- A count that is not negative. -/
def countOf (v : Json) : Option Nat := v.whole?.map Int.toNat

/-- Endpoint settings are a record. -/
def EndpointSettings.codec : Codec EndpointSettings where
  shape := .record [
    ("protocol", .defaulted, .anyText),
    ("url", .defaulted, .anyText),
    ("user_header", .defaulted, .anyText),
    ("password_header", .defaulted, .anyText),
    ("session_id_header", .defaulted, .anyText),
    ("timeout_seconds", .defaulted, .count)]
  decode v := do
    let d := EndpointSettings.default
    pure {
      protocol := ← memberD "protocol" Json.str? d.protocol v
      url := ← memberD "url" Json.str? d.url v
      userHeader := ← memberD "user_header" Json.str? d.userHeader v
      passwordHeader := ← memberD "password_header" Json.str? d.passwordHeader v
      sessionIdHeader := ← memberD "session_id_header" Json.str? d.sessionIdHeader v
      timeoutSeconds := ← memberD "timeout_seconds" countOf d.timeoutSeconds v }
  encode s := .obj [
    ("protocol", .str s.protocol),
    ("url", .str s.url),
    ("user_header", .str s.userHeader),
    ("password_header", .str s.passwordHeader),
    ("session_id_header", .str s.sessionIdHeader),
    ("timeout_seconds", .nat s.timeoutSeconds)]

/-- Security settings are a record. -/
def SecuritySettings.codec : Codec SecuritySettings where
  shape := .record [
    ("context_load_policy", .defaulted, ContextLoadPolicy.codec.shape),
    ("missing_session_token_policy", .defaulted, MissingTokenPolicy.codec.shape),
    ("authenticator", .defaulted, ExtensionSelection.codec.shape),
    ("context_handler", .defaulted, ExtensionSelection.codec.shape),
    ("custom_authenticator", .defaulted, EndpointSettings.codec.shape),
    ("extra", .defaulted, .dict .anyText)]
  decode v := do
    let d := SecuritySettings.default
    pure {
      contextLoadPolicy :=
        ← memberD "context_load_policy" ContextLoadPolicy.codec.decode d.contextLoadPolicy v
      missingTokenPolicy :=
        ← memberD "missing_session_token_policy" MissingTokenPolicy.codec.decode
          d.missingTokenPolicy v
      authenticator := ← memberD "authenticator" ExtensionSelection.codec.decode d.authenticator v
      contextHandler :=
        ← memberD "context_handler" ExtensionSelection.codec.decode d.contextHandler v
      endpoint := ← memberD "custom_authenticator" EndpointSettings.codec.decode d.endpoint v
      extra := ← memberD "extra" textsByName d.extra v }
  encode s := .obj [
    ("context_load_policy", ContextLoadPolicy.codec.encode s.contextLoadPolicy),
    ("missing_session_token_policy", MissingTokenPolicy.codec.encode s.missingTokenPolicy),
    ("authenticator", ExtensionSelection.codec.encode s.authenticator),
    ("context_handler", ExtensionSelection.codec.encode s.contextHandler),
    ("custom_authenticator", EndpointSettings.codec.encode s.endpoint),
    ("extra", ofTextsByName s.extra)]

/-- Temporary settings are a record. -/
def TemporarySettings.codec : Codec TemporarySettings where
  shape := .record [("workspace", .defaulted, .anyText)]
  decode v := do pure ⟨← memberD "workspace" Json.str? TemporarySettings.default.workspace v⟩
  encode s := .obj [("workspace", .str s.workspace)]

/-- A text, or null for none. -/
def textOrNull : Json → Option (Option String)
  | .null => some none
  | .str s => some (some s)
  | _ => none

/-- Logging settings are a record; a path that is not set is left out. -/
def LoggingSettings.codec : Codec LoggingSettings where
  shape := .record [
    ("level", .defaulted, .anyText),
    ("format", .defaulted, LogFormat.codec.shape),
    ("include_location", .defaulted, .flag),
    ("include_thread", .defaulted, .flag),
    ("log_span_close", .defaulted, .flag),
    ("log_file_path", .defaulted, .optional .anyText),
    ("filter_directives", .defaulted, .list .anyText)]
  decode v := do
    let d := LoggingSettings.default
    pure {
      level := ← memberD "level" Json.str? d.level v
      format := ← memberD "format" LogFormat.codec.decode d.format v
      includeLocation := ← memberD "include_location" Json.bool? d.includeLocation v
      includeThread := ← memberD "include_thread" Json.bool? d.includeThread v
      logSpanClose := ← memberD "log_span_close" Json.bool? d.logSpanClose v
      filePath := ← memberD "log_file_path" textOrNull d.filePath v
      directives := ← memberD "filter_directives" texts d.directives v }
  encode s := .obj <|
    [("level", .str s.level),
      ("format", LogFormat.codec.encode s.format),
      ("include_location", .bool s.includeLocation),
      ("include_thread", .bool s.includeThread),
      ("log_span_close", .bool s.logSpanClose)] ++
    (match s.filePath with
      | some path => [("log_file_path", .str path)]
      | none => []) ++
    [("filter_directives", ofTexts s.directives)]

/-- All settings are a record. -/
def Settings.codec : Codec Settings where
  shape := .record [
    ("security", .defaulted, SecuritySettings.codec.shape),
    ("temporary", .defaulted, TemporarySettings.codec.shape),
    ("logging", .defaulted, LoggingSettings.codec.shape)]
  decode v := do
    let d := Settings.default
    pure ⟨← memberD "security" SecuritySettings.codec.decode d.security v,
      ← memberD "temporary" TemporarySettings.codec.decode d.temporary v,
      ← memberD "logging" LoggingSettings.codec.decode d.logging v⟩
  encode s := .obj [
    ("security", SecuritySettings.codec.encode s.security),
    ("temporary", TemporarySettings.codec.encode s.temporary),
    ("logging", LoggingSettings.codec.encode s.logging)]

end QuerySession
