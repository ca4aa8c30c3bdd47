import QuerySession.Storage.Local

/-!
# A local storage among others

The disk of a local storage is not its own: while it is used, others put files and folders on the
disk.  Neither does a storage belong to one workspace: any number of workspaces may have the same.

## Main Definitions

* `Disk.add` — somebody puts a file or a folder on a disk
* `LocalStorage.Call`, `LocalStorage.serve`, `LocalStorage.run` — one call on a storage or one
  addition, and a sequence of them
* `LocalStorage.everywhere` — one local storage under all names
-/

namespace QuerySession

namespace Disk

/-- Whether a folder stands at a place. -/
def hasFolder (d : Disk) (place : List String) : Bool := (d.find? place).any Entry.isFolder

/-- Put an entry at a place in a folder, if nothing stands there. -/
def add (d : Disk) (place : List String) (entry : Entry) : Disk :=
  if d.hasFolder place.dropLast && (d.find? place).isNone then d.put place entry else d

end Disk

namespace LocalStorage

/-- Others put an entry on the disk. -/
def add (s : LocalStorage) (place : List String) (entry : Disk.Entry) : LocalStorage :=
  { s with disk := s.disk.add place entry }

/-- What changes the disk or the schedule. -/
inductive Call where
  | create (p : StoragePath) (strategy : FolderStrategy)
  | delete (p : StoragePath) (recursive : Bool)
  /-- Others put an entry at a place. -/
  | add (place : List String) (entry : Disk.Entry)

/-- Make a call, or the addition. -/
def perform : Call → Attempt LocalStorage Unit
  | .create p strategy => create p strategy
  | .delete p recursive => do
    let _ ← delete p recursive
  | .add place entry => .consult fun s => (.ok (), s.add place entry)

/-- What a call leaves, whether it succeeds or not. -/
def serve (spans : List String) (scene : Scene LocalStorage) (call : Call) : Scene LocalStorage :=
  ((perform call).outcome spans scene).2

/-- What a sequence of calls leaves. -/
def run (spans : List String) (scene : Scene LocalStorage) (calls : List Call) :
    Scene LocalStorage :=
  calls.foldl (serve spans) scene

/-- Storages that are all one local storage, whatever their names are. -/
def everywhere : Storages LocalStorage where
  uri _ := uri
  probe _ := probe
  create _ := create
  delete _ := delete

end LocalStorage

end QuerySession
