import QuerySession.Session.Establish
import QuerySession.Simulation.World

/-!
# Simulated servers

A simulated server at work: sessions, authorities, registries, establishers and providers that live
in a simulated world and go by names. A move looks names up, calls an operation of the library, and
puts what it changed back under its name.

## Main Definitions

* `SimulatedServer` — everything that lives, by name
* `Move` — an operation on a server that may miss a name; `Missing`
* `SimulatedServer.build`, `SimulatedServer.establish`, `SimulatedServer.drop` — sessions come and
  go
* `SimulatedServer.register`, `SimulatedServer.close`, `SimulatedServer.submit`, … — what sessions
  do
* `SimulatedServer.getProvider`, `SimulatedServer.resolveProvider`,
  `SimulatedServer.makeEstablisher` — providers

## Design Notes

The identifiers of a server are not random: a session's tells its name, and tokens and queries are
numbered. So runs can be repeated and compared.
-/

namespace QuerySession

/-- What a move may look for in vain. -/
inductive Missing where
  | session
  | workspace
  | storage
  | authority
  | registry
  | establisher
  | authenticator
  | contextHandler
  | node
  deriving DecidableEq

/-- The wording. -/
def Missing.message : Missing → String
  | session => "no such session"
  | workspace => "no such workspace"
  | storage => "no such storage"
  | authority => "no such authority"
  | registry => "no such registry"
  | establisher => "no such establisher"
  | authenticator => "no such authenticator"
  | contextHandler => "no such context provider"
  | node => "no such node"

/-- A simulated server at work. -/
structure SimulatedServer where
  world : World
  /-- The names of the storages on the local disk. -/
  onDisk : List String
  workspaces : Keyed String Workspace
  tree : SchemaTree
  system : SystemOptions
  sessions : Keyed String Session
  authorities : Keyed String Authority
  registries : Keyed String Registry
  establishers : Keyed String Establisher
  authenticators : Keyed String ProviderId
  contextHandlers : Keyed String ProviderId
  /-- How many authorities, tokens and queries there were. -/
  authorityCount : Nat
  tokenCount : Nat
  queryCount : Nat
  /-- Whether local storages are given up once no session uses them. -/
  storagesLeft : Bool
  events : List Event

/-- An operation on a server. -/
abbrev Move := ExceptT Missing (StateM SimulatedServer)

namespace SimulatedServer

/-- A server on which nothing lives yet. -/
def on (world : World) : SimulatedServer where
  world
  onDisk := []
  workspaces := .empty
  tree := .leaf
  system := .empty
  sessions := .empty
  authorities := .empty
  registries := .empty
  establishers := .empty
  authenticators := .empty
  contextHandlers := .empty
  authorityCount := 0
  tokenCount := 0
  queryCount := 0
  storagesLeft := false
  events := []

variable {α : Type}

/-! ### Moves -/

/-- What lives under a name. -/
def find (missing : Missing) (part : SimulatedServer → Keyed String α) (name : String) :
    Move α := do
  match (part (← get)).find? name with
  | some a => pure a
  | none => throw missing

/-- Run an action in the world of the server. -/
def run (x : Action World α) : Move α := do
  let p ← get
  let (a, scene) := x [] ⟨p.world, p.events⟩
  set { p with world := scene.outside, events := scene.events }
  pure a

/-- The storages of the server. -/
def storages : Move (Storages World) := do pure (World.storages (← get).onDisk)

/-- The session of a name. -/
def session (name : String) : Move Session := find .session SimulatedServer.sessions name

/-- Put a session under a name. -/
def putSession (name : String) (s : Session) : Move Unit :=
  modify fun p => { p with sessions := p.sessions.put name s }

/-- The workspace of a name. -/
def workspace (name : String) : Move Workspace := find .workspace SimulatedServer.workspaces name

/-- The authority of a name. -/
def authority (name : String) : Move Authority := find .authority SimulatedServer.authorities name

/-- Let the session of a name act. -/
def onSession (name : String) (f : Session → Action World (α × Session)) : Move α := do
  let (a, s) ← run (f (← session name))
  putSession name s
  pure a

/-! ### Sessions -/

/-- The identifier of the next session of a name. -/
def nextId (name : String) : Move String := do
  let taken := (← get).sessions.contains name
  pure ("<sid:" ++ name ++ (if taken then "'" else "") ++ ">")

/-- Put a new session under a name; the one that was there goes away. -/
def keep (name : String) (s : Session) : Move Unit := do
  match (← get).sessions.find? name with
  | some old => run old.abandon
  | none => pure ()
  putSession name s

/-- Keep a session that was made without error. -/
def keepMade (name : String) (made : Except Error Session) : Move (Except Error Session) := do
  match made with
  | .ok s => keep name s
  | .error _ => pure ()
  pure made

/-- Build a session. -/
def build (name : String) (r : SessionRequest) : Move (Except Error Session) := do
  keepMade name (← run (Session.build r (← nextId name)).outcome)

/-- Establish a session. -/
def establish (name establisher : String) (r : SessionRequest) :
    Move (Except Error Session) := do
  let e ← find .establisher SimulatedServer.establishers establisher
  keepMade name (← run (e.establish World.providers r (← nextId name)).outcome)

/-- Let a session go. -/
def drop (name : String) : Move Unit := do
  run (← session name).abandon
  modify fun p => { p with sessions := p.sessions.erase name }

/-- Close a session. -/
def close (name : String) : Move Unit := do
  let storages ← storages
  onSession name fun s => do pure ((), ← s.close storages)

/-- Submit a query; answers its id. -/
def submit (name : String) : Move String := do
  let number := (← get).queryCount + 1
  let id := "<query:" ++ toString number ++ ">"
  onSession name fun s => do pure ((), ← s.submit id)
  modify fun p => { p with queryCount := number }
  pure id

/-- Let the locations of a session act. -/
def onLocations (name : String) (f : Locations → Action World (α × Locations)) : Move α :=
  onSession name fun s => do
    let (a, locations) ← f s.locations
    pure (a, { s with locations })

/-- Make sure that the location of a session in a workspace is there. -/
def ensure (name workspaceName : String) : Move (Except Error StoragePath) := do
  let w ← workspace workspaceName
  let storages ← storages
  onLocations name fun l => l.ensure storages w

/-- Clean up the locations of a session. -/
def cleanup (name : String) : Move Nat := do
  let storages ← storages
  onLocations name fun l => l.cleanup storages

/-- Register a temporary table; answers its alias. -/
def register (name workspaceName table : String) : Move (Except Error String) := do
  let before ← session name
  let w ← workspace workspaceName
  let storages ← storages
  let number := (← get).tokenCount + 1
  let token := "<tab:" ++ toString number ++ ">"
  let result ← onSession name fun s => s.registerTable storages w table token
  -- A token counts as used only when a table took it.
  if before.tables.size < (← session name).tables.size then
    modify fun p => { p with tokenCount := number }
  pure result

/-- Whether a table is a live temporary one. -/
def isTemporary (name workspaceName table : String) (settings : TemporarySettings) :
    Move (Except Error Bool) := do
  let s ← session name
  let w ← workspace workspaceName
  run (s.isTemporaryTable World.workspaces w settings table).outcome

/-- Remove a temporary table. -/
def remove (name workspaceName table : String) : Move (Except Error Unit) := do
  let _ ← session name
  let w ← workspace workspaceName
  onSession name fun s => s.removeTable World.workspaces w table

/-- Change what a workspace holds under the alias of a table; nothing for a table without alias. -/
def onAlias (name workspaceName table : String)
    (f : String → WorkspaceTables → α × WorkspaceTables) : Move (Option α) := do
  let s ← session name
  let w ← workspace workspaceName
  match s.tables.resolve? table with
  | none => pure none
  | some tableAlias =>
    some <$> run (consult fun world =>
      let (a, tables) := f tableAlias (world.tablesOf w.key)
      (a, world.putTables w.key tables))

/-- Let a workspace fail from now on, or no more. -/
def configureWorkspace (workspaceName : String) (failsToLook failsToDrop : Bool) :
    Move Unit := do
  let w ← workspace workspaceName
  run (consult fun world =>
    ((), world.putTables w.key { world.tablesOf w.key with failsToLook, failsToDrop }))

/-- Change a storage in memory. -/
def configureStorage (name : String) (f : MemoryStorage → MemoryStorage) : Move Unit := do
  let m ← find .storage (fun p => p.world.memory) name
  run (consult fun world => ((), world.putMemory name (f m)))

/-- Do without the workspaces and the local storages. -/
def leaveStorages : Move Unit :=
  modify fun p => { p with workspaces := .empty, storagesLeft := true }

/-- The names of the storages that sessions have locations in. -/
def usedStorages (p : SimulatedServer) : List String :=
  p.sessions.entries.flatMap fun s => s.2.locations.known.entries.map fun e => e.2.storage

/-- Give up the local storages that no session uses, once the server does without them. -/
def releaseUnused : Move Unit := do
  let p ← get
  if p.storagesLeft then
    p.onDisk.forM fun name =>
      if p.world.schedules.contains name ∧ name ∉ p.usedStorages then run (World.release name)
      else pure ()

/-- Make the default schema of a session the one that a path denotes, seen from a place in the
tree. -/
def setSchema (name path : String) (place : List String) : Move (Except Error Unit) := do
  let _ ← session name
  match (SchemaNode.top (← get).tree).descend? place with
  | none => throw .node
  | some node => onSession name fun s => s.setDefaultSchema path node

/-- The default schema of a session, seen from a place in the tree. -/
def defaultSchema (name : String) (place : List String) : Move (Option SchemaNode) := do
  let s ← session name
  match (SchemaNode.top (← get).tree).descend? place with
  | none => throw .node
  | some node => pure (s.defaultSchema? node)

/-! ### Options and authorities -/

/-- Set an option of a session. -/
def setOption (name : String) (v : OptionValue) : Move Unit :=
  onSession name fun s => pure ((), { s with options := s.options.set v })

/-- The option that a session sees. -/
def getOption (name option : String) : Move (Option OptionValue) := do
  pure ((← session name).options.find? (← get).system option)

/-- Set an option of the system. -/
def setSystemOption (v : OptionValue) : Move Unit :=
  modify fun p => { p with system := p.system.set v }

/-- Make an authority. -/
def makeAuthority (name : String) (policies : List Policy) : Move Unit :=
  modify fun p => { p with
    authorityCount := p.authorityCount + 1
    authorities := p.authorities.put name ⟨⟨p.authorityCount⟩, policies⟩ }

/-- Replace the credentials of a session on behalf of an authority. -/
def replaceCredentials (name authorityName user : String) : Move (Except Error Unit) := do
  let _ ← session name
  let a ← authority authorityName
  onSession name fun s => s.replaceCredentials a.id ⟨user⟩

/-- Let the user that a session's client asked to act for take over. -/
def actForTarget (name authorityName : String) : Move (Except Error Unit) := do
  let _ ← session name
  let a ← authority authorityName
  onSession name fun s => s.actForTarget a

/-! ### Providers -/

/-- The registry of a name. -/
def registry (name : String) : Move Registry := find .registry SimulatedServer.registries name

/-- Put a registry under a name. -/
def putRegistry (name : String) (r : Registry) : Move Unit :=
  modify fun p => { p with registries := p.registries.put name r }

/-- Register a candidate. -/
def addCandidate (kind : ExtensionKind) (name : String) (c : Candidate) : Move Unit := do
  let r ← registry name
  putRegistry name (r.register kind c)

/-- The provider of a name. -/
def provider (kind : ExtensionKind) (name : String) : Move ProviderId :=
  match kind with
  | .authenticator => find .authenticator SimulatedServer.authenticators name
  | .contextHandler => find .contextHandler SimulatedServer.contextHandlers name

/-- Put a provider under a name; whether it was there before, if there was one. -/
def keepProvider (kind : ExtensionKind) (name : String) (id : ProviderId) :
    Move (Option Bool) := do
  let p ← get
  match kind with
  | .authenticator =>
    set { p with authenticators := p.authenticators.put name id }
    pure ((p.authenticators.find? name).map fun before => before = id)
  | .contextHandler =>
    set { p with contextHandlers := p.contextHandlers.put name id }
    pure ((p.contextHandlers.find? name).map fun before => before = id)

/-- Keep a provider that was had without error. -/
def keepResolved (kind : ExtensionKind) (name : String) (r : Except Error ProviderId) :
    Move (Except Error (Option Bool)) := do
  match r with
  | .ok id => do pure (.ok (← keepProvider kind name id))
  | .error e => pure (.error e)

/-- Have the provider of a registry, and put it under a name. -/
def getProvider (kind : ExtensionKind) (registryName name : String) (settings : Settings) :
    Move (Except Error (Option Bool)) := do
  let r ← registry registryName
  let (result, r) ← run (r.get World.providers kind settings)
  putRegistry registryName r
  keepResolved kind name result

/-- Resolve a provider without a registry, and put it under a name. -/
def resolveProvider (kind : ExtensionKind) (name tag : String) (candidates : List Candidate)
    (settings : Settings) : Move (Except Error (Option Bool)) := do
  keepResolved kind name
    (← run (resolve World.providers kind tag candidates settings).outcome)

/-- Close the providers of a registry. -/
def closeRegistry (name : String) : Move Unit := do
  let r ← registry name
  run (r.close World.providers)

/-- Ask an authenticator for the attributes of a user. -/
def authenticate (name user password : String) : Move (Except Error (List OptionValue)) := do
  let id ← provider .authenticator name
  run (World.authenticate id user password).outcome

/-- The attributes of a session as a context provider leaves them. -/
def load (name : String) (attributes : List OptionValue) (sessionId : String) :
    Move (Except Error (List OptionValue)) := do
  let id ← provider .contextHandler name
  let (result, attributes) ← run (World.load id attributes sessionId)
  pure (result.map fun _ => attributes)

/-- Put an establisher under a name, with the authority of a name if one is given. -/
def keepEstablisher (name : String) (authorityName : Option String) (e : Establisher) :
    Move Unit := do
  let e ← match authorityName with
    | some a => do pure (e.withAuthority (← authority a))
    | none => pure e
  modify fun p => { p with establishers := p.establishers.put name e }

/-- Make an establisher with the providers of a registry. -/
def makeEstablisher (name registryName : String) (authorityName : Option String)
    (settings : Settings) (spans : List String) : Move (Except Error Unit) := do
  let r ← registry registryName
  let (result, r) ← run (Establisher.ofRegistry World.providers r settings spans)
  putRegistry registryName r
  match result with
  | .ok e => do
    keepEstablisher name authorityName e
    pure (.ok ())
  | .error e => pure (.error e)

/-- Close the providers of an establisher. -/
def shutdown (name : String) : Move Unit := do
  let e ← find .establisher SimulatedServer.establishers name
  run (e.shutdown World.providers)

end SimulatedServer

end QuerySession
