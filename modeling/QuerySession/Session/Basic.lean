import QuerySession.Credentials
import QuerySession.Impersonation
import QuerySession.Options.Basic
import QuerySession.Properties
import QuerySession.Schema.Tree
import QuerySession.Session.Locations
import QuerySession.Settings.Basic
import QuerySession.Tables
import QuerySession.Text.Quoted

/-!
# Sessions

The state of one connection: who is connected, with which properties and options, how many queries
ran, and which temporary tables and locations there are. Its identity never changes, and it always
has credentials.

## Main Definitions

* `SessionRequest` — what a session is made of
* `Session`, `Session.build` — the session
* `Session.replaceCredentials`, `Session.actForTarget` — another user takes over
* `Session.setDefaultSchema`, `Session.defaultSchema?` — the default schema
* `Session.registerTable`, `Session.isTemporaryTable`, `Session.removeTable` — temporary tables
* `Session.submit`, `Session.close`, `Session.abandon` — queries, and the end

## Design Notes

Identifiers are random and come from the caller: a session's id, the token of a table's alias, a
query's id. Operations answer the session as it is afterwards, also when they fail.
-/

namespace QuerySession

/-- What a session is made of. -/
structure SessionRequest where
  credentials : Option Credentials
  /-- The connection properties as the client sent them. -/
  properties : List (String × String)
  /-- Whether options fall back on those of the system. -/
  overSystemOptions : Bool
  supportsComplexTypes : Bool
  /-- The one authority that may replace the credentials. -/
  authority : Option AuthorityId
  /-- The spans around the session. -/
  spans : List String
  deriving DecidableEq

/-- The state of one connection. -/
structure Session where
  id : String
  credentials : Credentials
  properties : Properties
  options : SessionOptions
  supportsComplexTypes : Bool
  authority : Option AuthorityId
  queryCount : UInt64
  tables : Tables
  locations : Locations
  spans : List String
  deriving DecidableEq

namespace Session

variable {σ : Type}

/-! ### Building -/

/-- The session of a request, with the given id and credentials. -/
def ofRequest (r : SessionRequest) (id : String) (credentials : Credentials) : Session :=
  let spans := r.spans ++ ["session"]
  { id, credentials, spans
    properties := .ofPairs r.properties
    options := if r.overSystemOptions then .layered id else .standalone id
    supportsComplexTypes := r.supportsComplexTypes
    authority := r.authority
    queryCount := 0
    tables := .forSession id
    locations := .forSession id spans }

/-- Make a session; properties that are not recognised are reported and dropped. -/
def build (r : SessionRequest) (id : String) : Attempt σ Session := do
  match r.credentials with
  | none => .ofExcept (.error (.invalid "Session credentials are required" "credentials" "session"))
  | some credentials =>
    let s := ofRequest r id credentials
    within s.spans do
      let properties ← ExceptT.lift (Properties.read r.properties)
      .emit .debug "Session built" [("properties", toString properties.size)]
    pure s

/-! ### Who is connected -/

/-- Replace the credentials on behalf of an authority. Only the one that the session was built with
may do this, and only for a user with a name. -/
def replaceCredentials (s : Session) (authority : AuthorityId) (credentials : Credentials) :
    Action σ (Except Error Unit × Session) := do
  if s.authority ≠ some authority then
    within s.spans
      (emit .warn "Rejected credential replacement from an unrecognized authority" [])
    pure (.error (.plain
      (.unauthorized "Only the impersonation authority can replace session credentials")
      (((Context.of "session").during "replace_credentials").noting "session_id" s.id)), s)
  else if credentials.userName = "" then
    pure (.error (.invalid "Replacement credentials must name a user" "credentials" "session"), s)
  else pure (.ok (), { s with credentials })

/-- The user that the client asked to act for. -/
def target? (s : Session) : Option String := s.properties.find? Properties.impersonationTarget

/-- Let the user that the client asked to act for take over, if the authority allows it. Nothing
happens when the client did not ask. -/
def actForTarget (s : Session) (authority : Authority) :
    Action σ (Except Error Unit × Session) := do
  let target := s.target?.getD ""
  let proxy := s.credentials.userName
  if target = "" then pure (.ok (), s)
  else if !authority.allows proxy target then
    pure (.error (.plain
      (.unauthorized (proxy ++ " is not authorized to impersonate " ++ target))
      (((Context.of "impersonation").during "replace_session_user").noting "property"
        Properties.impersonationTarget)), s)
  else do
    let (result, s) ← s.replaceCredentials authority.id ⟨target⟩
    match result with
    | .error e => pure (.error e, s)
    | .ok () => do
      emit .info "Session user impersonated"
        [("proxy", proxy), ("target", target), ("session_id", s.id)]
      pure (.ok (), s)

/-! ### The default schema -/

/-- The dotted path of the default schema; empty when none was set. -/
def defaultSchemaPath (s : Session) : String := s.properties.findD Properties.schema

/-- Make the schema that a path denotes, seen from `current`, the default schema. -/
def setDefaultSchema (s : Session) (path : String) (current : SchemaNode) :
    Action σ (Except Error Unit × Session) := do
  match current.resolve path with
  | .error e => pure (.error e, s)
  | .ok node => do
    within s.spans (emit .debug "Default schema changed" [("schema", node.canonical)])
    pure (.ok (), { s with properties := s.properties.set Properties.schema node.canonical })

/-- The default schema, if one is set and still there. -/
def defaultSchema? (s : Session) (root : SchemaNode) : Option SchemaNode :=
  if s.defaultSchemaPath = "" then none
  else root.descend? (Text.split '.' s.defaultSchemaPath)

/-! ### Queries -/

/-- Count a query and report its id. -/
def submit (s : Session) (queryId : String) : Action σ Session := do
  emit .debug "Query submitted" [("session_id", s.id), ("query_id", queryId)]
  pure { s with queryCount := s.queryCount + 1 }

/-! ### Temporary tables -/

/-- Make sure that the session's location is there, then give a table its alias. The token is used
when the table has none. -/
def registerTable (storages : Storages σ) (s : Session) (w : Workspace) (name token : String) :
    Action σ (Except Error String × Session) := do
  let (result, locations) ← s.locations.ensure storages w
  let s := { s with locations }
  match result with
  | .error e => pure (.error e, s)
  | .ok _ => do
    -- Only a session whose location is there gives out aliases.
    let (tableAlias, tables) := s.tables.register name token
    within s.spans
      (emit .debug "Temporary table registered" [("table", name), ("generated", tableAlias)])
    pure (.ok tableAlias, { s with tables })

/-- Whether a name is a live temporary table of the session in a workspace. -/
def isTemporaryTable (workspaces : Workspaces σ) (s : Session) (w : Workspace)
    (settings : TemporarySettings) (name : String) : Attempt σ Bool := do
  if !settings.isTemporaryWorkspace w.schema then pure false
  else match s.tables.resolve? name with
    | none => pure false
    | some tableAlias => do
      let kind ← within s.spans (workspaces.kindOf w.key tableAlias)
      pure (kind == some .table)

/-- Drop a temporary table and forget its alias; the alias is kept when the table cannot be
dropped. Nothing happens for a name without alias. -/
def removeTable (workspaces : Workspaces σ) (s : Session) (w : Workspace) (name : String) :
    Action σ (Except Error Unit × Session) := do
  match s.tables.resolve? name with
  | none => pure (.ok (), s)
  | some tableAlias =>
    match ← within s.spans (workspaces.drop w.key tableAlias).outcome with
    -- The alias stays, so that the removal can be tried again.
    | .error e => pure (.error e, s)
    | .ok () => do
      within s.spans
        (emit .info "Temporary table removed" [("table", name), ("generated", tableAlias)])
      pure (.ok (), { s with tables := (s.tables.remove name).2 })

/-! ### The end -/

/-- Delete the session's temporary locations; no more are made afterwards. -/
def close (storages : Storages σ) (s : Session) : Action σ Session := do
  let (deleted, locations) ← s.locations.cleanup storages
  within s.spans (emit .info "Session closed"
    [("deleted_locations", toString deleted), ("queries", toString s.queryCount)])
  pure { s with locations }

/-- Let a session go; locations that are still there are reported. -/
def abandon (s : Session) : Action σ Unit :=
  if s.locations.isEmpty then pure ()
  else within s.spans (emit .warn
    "Session dropped without close; temporary locations were left behind"
    [("locations", toString s.locations.size)])

/-! ### Description -/

/-- The names with their texts, quoted, between braces. -/
def describeTexts (m : Keyed String String) : String :=
  "\x7b" ++ ", ".intercalate (m.entries.map fun e => Text.quoted e.1 ++ ": " ++ Text.quoted e.2) ++
    "\x7d"

/-- A description for people; the password is left out. -/
def describe (s : Session) : String :=
  "Session \x7b id: " ++ Text.quoted s.id ++
  ", credentials: UserCredentials \x7b user_name: " ++ Text.quoted s.credentials.userName ++
  " \x7d, properties: " ++ describeTexts s.properties.snapshot ++
  ", query_count: " ++ toString s.queryCount ++ " \x7d"

end Session

end QuerySession
