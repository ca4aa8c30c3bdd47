import QuerySession.Report.Basic
import QuerySession.Session.Basic
import QuerySession.Simulation.World

/-!
# Reports of simulations

What a simulated world and the sessions in it look like at a moment.

## Main Definitions

* `Disk.toReport`, `MemoryStorage.toReport`, `ProviderCall.toReport`, `World.storagesReport`
* `Session.toReport`
-/

namespace QuerySession

open Codec

namespace Report

/-- Texts in ascending order. -/
def sortTexts (ss : List String) : List String := ss.mergeSort fun a b => a ≤ b

/-- A number in octal digits. -/
def octal (n : Nat) : String := String.ofList (Nat.toDigits 8 n)

end Report

/-- What stands at a place, in one word: the permission bits of a folder. -/
def Disk.Entry.describe : Disk.Entry → String
  | .folder mode => Report.octal mode
  | .file _ => "file"

/-- Everything below the folder at a place, by path. -/
def Disk.toReport (d : Disk) (top : List String) : Json :=
  let below := d.entries.entries.filter fun e => Disk.isBelow e.1 top
  let shown := below.map fun e =>
    ("/" ++ Text.joinWith '/' (e.1.drop top.length), e.2.describe)
  .arr ((shown.mergeSort fun a b => a.1 ≤ b.1).map fun e => .arr [.str e.1, .str e.2])

/-- A strategy in short. -/
def FolderStrategy.describe (s : FolderStrategy) : String :=
  Report.octal s.permission ++ "/" ++ toString s.deleteOnExit

/-- What is in a storage, and how often it was called. -/
def MemoryStorage.toReport (m : MemoryStorage) : Json := .obj [
  ("paths", ofTexts (Report.sortTexts (m.paths.map StoragePath.toText))),
  ("creates", .nat m.creations.length),
  ("deletes", .nat m.deletions),
  ("exists_calls", .nat m.probes),
  ("strategies", ofTexts (m.creations.map FolderStrategy.describe))]

/-- The storages of a world, and the local disk if there are storages on it. -/
def World.storagesReport (w : World) (onDisk : List String) (top : List String) : Json :=
  .obj (w.memory.entries.map (fun e => (e.1, e.2.toReport)) ++
    (if onDisk.isEmpty then [] else [("disk", w.disk.toReport top)]))

/-- Options as a document. -/
def Report.options (vs : List OptionValue) : Json := .arr (vs.map OptionValue.toReport)

/-- A call of a provider. -/
def ProviderCall.toReport : ProviderCall → Json
  | construct slot => .obj [("slot", .nat slot), ("call", .str "new")]
  | setup slot extra =>
    .obj [("slot", .nat slot), ("call", .str "setup"), ("extra", ofTextsByName extra)]
  | close slot => .obj [("slot", .nat slot), ("call", .str "close")]
  | authenticate slot user password => .obj [("slot", .nat slot), ("call", .str "authenticate"),
      ("user", .str user), ("password", .str password)]
  | load slot sessionId attributes => .obj [("slot", .nat slot), ("call", .str "load"),
      ("session_id", .str sessionId), ("attributes", Report.options attributes)]

/-- The state of a session in short. -/
def Session.toReport (s : Session) : Json := .obj [
  ("user", .str s.credentials.userName),
  ("schema", .str s.defaultSchemaPath),
  ("properties", ofTextsByName s.properties.snapshot),
  ("queries", .str (toString s.queryCount)),
  ("tables", .nat s.tables.size),
  ("locations", .nat s.locations.size),
  ("options", .nat s.options.size)]

end QuerySession
