import QuerySession.Security.NoContext
import QuerySession.Simulation.Provider
import QuerySession.Simulation.WorkspaceTables
import QuerySession.Simulation.Storage
import QuerySession.Storage.Local

/-!
# Simulated worlds

Everything that sessions meet outside of the library, as one value: storages in memory and on a
local disk, workspaces, and providers that follow scripts. The network of a simulated world is
silent: nobody answers.

## Main Definitions

* `World` — the state of everything outside
* `World.storages`, `World.workspaces`, `World.providers`, `World.network` — how it is called
* `World.release` — give up a storage on the local disk
-/

namespace QuerySession

/-- The state of everything outside. -/
structure World where
  disk : Disk
  /-- The schedules of the storages on the local disk, by the storages' names. -/
  schedules : Keyed String (List (List String))
  /-- The storages in memory by name. -/
  memory : Keyed String MemoryStorage
  /-- What the workspaces hold, by the workspaces' keys. -/
  tables : Keyed String WorkspaceTables
  /-- What scripted providers do, by number. -/
  scripts : List ProviderScript
  /-- The providers that were made, by number. -/
  made : List SimulatedProvider
  /-- The calls of scripted providers, oldest first. -/
  calls : List ProviderCall

namespace World

/-- A disk, and nothing else. -/
def on (disk : Disk) : World := ⟨disk, .empty, .empty, .empty, [], [], []⟩

/-! ### Storages -/

/-- The local storage of a name. -/
def localPart (name : String) (w : World) : LocalStorage :=
  ⟨w.disk, (w.schedules.find? name).getD []⟩

/-- Replace the local storage of a name. -/
def putLocal (name : String) (s : LocalStorage) (w : World) : World :=
  { w with disk := s.disk, schedules := w.schedules.put name s.schedule }

/-- The storage in memory of a name; empty when nothing happened to it yet. -/
def memoryPart (name : String) (w : World) : MemoryStorage :=
  (w.memory.find? name).getD .empty

/-- Replace the storage in memory of a name. -/
def putMemory (name : String) (m : MemoryStorage) (w : World) : World :=
  { w with memory := w.memory.put name m }

/-- Call the storage in memory of a name. -/
def onMemory {α : Type} (name : String) (f : MemoryStorage → Except Error α × MemoryStorage) :
    Attempt World α :=
  .consult fun w =>
    let (result, m) := f (w.memoryPart name)
    (result, w.putMemory name m)

/-- Call the local storage of a name. -/
def onDisk {α : Type} (name : String) (x : Attempt LocalStorage α) : Attempt World α :=
  .focus (localPart name) (putLocal name) x

/-- The storages, of which those named in `onLocalDisk` are on the local disk. -/
def storages (onLocalDisk : List String) : Storages World where
  uri name := if name ∈ onLocalDisk then LocalStorage.uri else MemoryStorage.uri name
  probe name path :=
    if name ∈ onLocalDisk then onDisk name (LocalStorage.probe path)
    else onMemory name (·.probe path)
  create name path strategy :=
    if name ∈ onLocalDisk then onDisk name (LocalStorage.create path strategy)
    else onMemory name (·.create path strategy)
  delete name path recursive :=
    if name ∈ onLocalDisk then onDisk name (LocalStorage.delete path recursive)
    else onMemory name (·.delete path)

/-- Give up the local storage of a name. -/
def release (name : String) : Action World Unit := do
  focus (localPart name) (putLocal name) LocalStorage.giveUp
  consult fun w => ((), { w with schedules := w.schedules.erase name })

/-! ### Workspaces -/

/-- What a workspace holds. -/
def tablesOf (key : String) (w : World) : WorkspaceTables := (w.tables.find? key).getD .empty

/-- Replace what a workspace holds. -/
def putTables (key : String) (s : WorkspaceTables) (w : World) : World :=
  { w with tables := w.tables.put key s }

/-- The tables of the workspaces. -/
def workspaces : Workspaces World where
  kindOf key name := .consult fun w => ((w.tablesOf key).kindOf name, w)
  drop key name := .consult fun w =>
    let (result, s) := (w.tablesOf key).drop name
    (result, w.putTables key s)

/-! ### Providers -/

/-- The script of a number. -/
def script (slot : Nat) (w : World) : ProviderScript := w.scripts[slot]?.getD .empty

/-- Note a call. -/
def note (call : ProviderCall) (w : World) : World := { w with calls := w.calls ++ [call] }

/-- Replace a provider. -/
def putProvider (p : ProviderId) (provider : SimulatedProvider) (w : World) : World :=
  { w with made := w.made.set p.number provider }

/-- The network, on which nobody answers. -/
def network : Network World := ⟨fun _ => pure none⟩

/-- Make a provider. -/
def construct (factory : Factory) : Action World ProviderId :=
  consult fun w =>
    let w' := { w with made := w.made ++ [.fresh factory] }
    (⟨w.made.length⟩, match factory with
      | .custom slot => w'.note (.construct slot)
      | .httpLogin | .noContext => w')

/-- The provider of a number. -/
def provider? (p : ProviderId) : Attempt World SimulatedProvider :=
  .consult fun w => match w.made[p.number]? with
    | some provider => (.ok provider, w)
    | none => (.error (.plain (.internal "unknown provider") (.of "simulation")), w)

/-- Set a provider up. -/
def setup (p : ProviderId) (settings : Settings) : Attempt World Unit := do
  match ← provider? p with
  | .scripted provider =>
    let extra := settings.security.extra
    .consult fun w =>
      (ScriptedProvider.orFail (w.script provider.slot).setupError (),
        (w.note (.setup provider.slot extra)).putProvider p (.scripted { provider with extra }))
  | .httpLogin h =>
    let (result, h) ← ExceptT.lift (h.setup settings)
    .consult fun w => (result, w.putProvider p (.httpLogin h))
  | .noContext => ExceptT.lift NoContext.setup

/-- Close a provider. -/
def close (p : ProviderId) : Attempt World Unit := do
  match ← provider? p with
  | .scripted provider => .consult fun w =>
      (ScriptedProvider.orFail (w.script provider.slot).closeError (),
        w.note (.close provider.slot))
  | .httpLogin _ | .noContext => pure ()

/-- Ask a provider for the attributes of a user. -/
def authenticate (p : ProviderId) (user password : String) :
    Attempt World (List OptionValue) := do
  match ← provider? p with
  | .scripted provider => .consult fun w =>
      (provider.authenticate (w.script provider.slot) user password,
        w.note (.authenticate provider.slot user password))
  | .httpLogin h => h.authenticate network user password
  | .noContext => pure []

/-- Let a provider change the attributes of a session. -/
def load (p : ProviderId) (attributes : List OptionValue) (sessionId : String) :
    Action World (Except Error Unit × List OptionValue) := do
  match ← (provider? p).outcome with
  | .ok (.scripted provider) => consult fun w =>
      (ScriptedProvider.load (w.script provider.slot) attributes,
        w.note (.load provider.slot sessionId attributes))
  | .ok (.httpLogin _) | .ok .noContext => pure (NoContext.load attributes)
  | .error e => pure (.error e, attributes)

/-- The providers. -/
def providers : Providers World := ⟨construct, setup, close, authenticate, load⟩

end World

end QuerySession
