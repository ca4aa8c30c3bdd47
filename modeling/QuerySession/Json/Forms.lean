import QuerySession.Credentials
import QuerySession.Error.Stamped
import QuerySession.Impersonation
import QuerySession.Json.Shape
import QuerySession.Options.Basic
import QuerySession.Storage.Path

/-!
# Document forms of values

The documents that stand for paths, credentials, options, policies and contexts.

## Main Definitions

* `StoragePath.codec`, `Credentials.codec`, `OptionValue.codec`, `Policy.codec`,
  `StampedContext.codec`, and the codecs of the names they use

## Design Notes

The content of an option carries no tag: a truth value, a whole number of 64 bits with sign, any
other number, or a text, told apart by the document itself.
-/

namespace QuerySession

namespace Codec

/-- A required member of a normal form. -/
def member {α : Type} (name : String) (decode : Json → Option α) (v : Json) : Option α :=
  (v.member? name).bind decode

/-- A member of a normal form, or a default when it is absent. -/
def memberD {α : Type} (name : String) (decode : Json → Option α) (default : α) (v : Json) :
    Option α :=
  match v.member? name with
  | some inner => decode inner
  | none => some default

/-- A list of texts. -/
def texts (v : Json) : Option (List String) := v.items?.bind (·.mapM Json.str?)

/-- Texts by name; of two members of one name the later counts. -/
def textsByName (v : Json) : Option (Keyed String String) :=
  (v.members?.bind (·.mapM fun m => m.2.str?.map (m.1, ·))).map Keyed.ofList

/-- The list of texts as a document. -/
def ofTexts (ss : List String) : Json := .arr (ss.map .str)

/-- The texts by name as a document. -/
def ofTextsByName (m : Keyed String String) : Json := .obj (m.entries.map fun e => (e.1, .str e.2))

/-- One of finitely many values, each with a name. -/
def named {α : Type} [DecidableEq α] (values : List α) (name : α → String) : Codec α where
  shape := .choice (values.map name)
  decode v := v.str?.bind fun s => values.find? (name · == s)
  encode a := .str (name a)

end Codec

open Codec

/-- Paths are written part by part. -/
def StoragePath.codec : Codec StoragePath where
  shape := .record [
    ("scheme", .required, .anyText),
    ("root", .required, .anyText),
    ("segments", .required, .list .anyText)]
  decode v := do
    pure ⟨← member "scheme" Json.str? v, ← member "root" Json.str? v, ← member "segments" texts v⟩
  encode p := .obj [
    ("scheme", .str p.scheme), ("root", .str p.root), ("segments", ofTexts p.segments)]

/-- Credentials are a record of the user's name. -/
def Credentials.codec : Codec Credentials where
  shape := .record [("user_name", .required, .anyText)]
  decode v := do pure ⟨← member "user_name" Json.str? v⟩
  encode c := .obj [("user_name", .str c.userName)]

/-- The written name of a scope. -/
def OptionScope.name : OptionScope → String
  | .system => "System"
  | .session => "Session"
  | .query => "Query"

/-- Scopes are written by name. -/
def OptionScope.codec : Codec OptionScope := named [.system, .session, .query] OptionScope.name

/-- Whether `n` fits into 64 bits with sign. -/
def OptionContent.isLong (n : Int) : Bool := -0x8000000000000000 ≤ n && n < 0x8000000000000000

/-- The content that a scalar stands for. -/
def OptionContent.ofScalar : Json → Option OptionContent
  | .bool b => some (.flag b)
  | .str s => some (.text s)
  | .num (.real x) => some (.real x)
  | .num (.whole n) => if isLong n then some (.whole n) else (Binary64.ofInt? n).map .real
  | _ => none

/-- The scalar that stands for a content. -/
def OptionContent.toScalar : OptionContent → Json
  | .flag b => .bool b
  | .whole n => .int n
  | .real x => .num (.real x)
  | .text s => .str s

/-- Options are a record of scope, name and content. -/
def OptionValue.codec : Codec OptionValue where
  shape := .record [
    ("scope", .required, OptionScope.codec.shape),
    ("name", .required, .anyText),
    ("value", .required, .scalar)]
  decode v := do
    pure ⟨← member "scope" OptionScope.codec.decode v, ← member "name" Json.str? v,
      ← member "value" OptionContent.ofScalar v⟩
  encode o := .obj [
    ("scope", OptionScope.codec.encode o.scope), ("name", .str o.name),
    ("value", o.content.toScalar)]

/-- The written name of an extension point. -/
def ExtensionKind.name : ExtensionKind → String
  | .authenticator => "Authenticator"
  | .contextHandler => "ContextHandler"

/-- Extension points are written by name. -/
def ExtensionKind.codec : Codec ExtensionKind :=
  named [.authenticator, .contextHandler] ExtensionKind.name

/-- Users are a record of their list of names, empty when absent. -/
def Principals.codec : Codec Principals where
  shape := .record [("users", .defaulted, .list .anyText)]
  decode v := do pure ⟨← memberD "users" texts [] v⟩
  encode p := .obj [("users", ofTexts p.users)]

/-- Policies are a record of proxies and targets. -/
def Policy.codec : Codec Policy where
  shape := .record [
    ("proxy_principals", .required, Principals.codec.shape),
    ("target_principals", .required, Principals.codec.shape)]
  decode v := do
    pure ⟨← member "proxy_principals" Principals.codec.decode v,
      ← member "target_principals" Principals.codec.decode v⟩
  encode p := .obj [
    ("proxy_principals", Principals.codec.encode p.proxies),
    ("target_principals", Principals.codec.encode p.targets)]

/-- Contexts are written flat, with the stamp in front. -/
def StampedContext.codec : Codec StampedContext where
  shape := .record [
    ("error_id", .required, .anyText),
    ("timestamp", .required, .text fun s => (Moment.ofText? s).isSome),
    ("component", .required, .anyText),
    ("operation", .nullable, .optional .anyText),
    ("metadata", .required, .dict .anyText),
    ("recovery_suggestions", .required, .list .anyText)]
  decode v := do
    let moment ← (← member "timestamp" Json.str? v) |> Moment.ofText?
    let operation := (v.member? "operation").bind Json.str?
    pure ⟨← member "error_id" Json.str? v, moment, ← member "component" Json.str? v, operation,
      ← member "metadata" textsByName v, ← member "recovery_suggestions" texts v⟩
  encode s := .obj [
    ("error_id", .str s.errorId),
    ("timestamp", .str s.moment.toText),
    ("component", .str s.context.component),
    ("operation", .strOrNull s.context.operation),
    ("metadata", ofTextsByName s.context.metadata),
    ("recovery_suggestions", ofTexts s.context.suggestions)]

/-- The authority with the policies of a document. -/
def Authority.ofText (id : AuthorityId) (policies : String) : Except Error Authority :=
  match Policy.codec.list.ofText policies with
  | .ok policies => .ok ⟨id, policies⟩
  | .error _ => .error .unreadable

end QuerySession
