import QuerySession.Storage.Access
import QuerySession.Storage.Disk

/-!
# The local storage

Folders on the local disk. Folders that are not to last are put on a schedule when they are made,
and are removed when the storage is given up, unless they were deleted before.

## Main Definitions

* `LocalStorage` — the disk and the schedule
* `LocalStorage.probe`, `LocalStorage.create`, `LocalStorage.delete` — the calls
* `LocalStorage.giveUp` — remove what is scheduled
-/

namespace QuerySession

/-- A disk with the folders that are to be removed in the end, by their paths as they were given. -/
structure LocalStorage where
  disk : Disk
  schedule : List (List String)
  deriving DecidableEq

namespace LocalStorage

/-- A storage on a disk, with an empty schedule. -/
def on (disk : Disk) : LocalStorage := ⟨disk, []⟩

/-- The text that identifies the local storage. -/
def uri : String := "file:///"

/-- The name of the component in errors. -/
def component : String := "local_storage"

/-- Whether a scheduled path is at or below a path, by names; dots do not count. -/
def isAtOrBelow (scheduled names : List String) : Bool :=
  (Disk.withoutDots names).isPrefixOf (Disk.withoutDots scheduled)

/-- Whether two paths lead down by the same names. -/
def isSamePath (a b : List String) : Bool := Disk.withoutDots a == Disk.withoutDots b

/-- Put a path on the schedule, if it is not on it. -/
def enlist (schedule : List (List String)) (names : List String) : List (List String) :=
  if schedule.any (isSamePath names) then schedule else schedule ++ [names]

/-- Take everything at or below a path off the schedule. -/
def release (schedule : List (List String)) (names : List String) : List (List String) :=
  schedule.filter (!isAtOrBelow · names)

/-- The names of a path on the disk, if the path is one of this storage. -/
def namesOf (p : StoragePath) : Except Error (List String) :=
  if p.scheme = "file" then .ok p.segments
  else .error (.storage ("Local storage cannot handle scheme '" ++ p.scheme ++ "'") component
    .unknown)

/-- Whether something is at a path of the disk. -/
def isThere (d : Disk) (names : List String) : Except Disk.Fault Bool :=
  match d.stat names with
  | .ok _ => .ok true
  | .error .notFound => .ok false
  | .error fault => .error fault

/-- The missing ones among the first `n` names' paths, the longest first, up to the first path that
is there. -/
def missing (d : Disk) (names : List String) : Nat → Except Disk.Fault (List (List String))
  | 0 => .ok []
  | n + 1 => do
    let path := names.take (n + 1)
    if ← isThere d path then .ok []
    else do
      let above ← missing d names n
      .ok (path :: above)

/-- Give the folders their permission bits, the outermost first. -/
def applyModes (mode : Nat) (d : Disk) : List (List String) →
    Except (List String × Disk.Fault) Unit × Disk
  | [] => (.ok (), d)
  | path :: above =>
    match applyModes mode d above with
    | (.error e, d) => (.error e, d)
    | (.ok (), d) =>
      match d.setMode path mode with
      | .ok d => (.ok (), d)
      | .error fault => (.error (path, fault), d)

/-- What is left of `create` once it is known which folders are missing. -/
def createMissing (s : LocalStorage) (p : StoragePath) (strategy : FolderStrategy)
    (absent : List (List String)) : Except Error Unit × LocalStorage :=
  match s.disk.makeFolders p.segments with
  | (.error fault, disk) =>
    (.error (.storage ("Failed to create " ++ p.toText) component (.system fault.message)),
      { s with disk })
  | (.ok (), disk) =>
    match applyModes strategy.permission disk absent with
    | (.error (names, fault), disk) =>
      (.error (.storage ("Failed to apply permissions to " ++ { p with segments := names }.toText)
        component (.system fault.message)), { s with disk })
    | (.ok (), disk) =>
      match strategy.deleteOnExit, absent.getLast? with
      | true, some outermost => (.ok (), ⟨disk, enlist s.schedule outermost⟩)
      | _, _ => (.ok (), { s with disk })

/-- A fault of the disk as the outcome of a call. -/
def orRefused {α : Type} : Except Disk.Fault α → Except Error α
  | .ok a => .ok a
  | .error fault => .error (.system fault.message)

/-- Whether something is at a path. -/
def probe (p : StoragePath) : Attempt LocalStorage Bool := do
  let names ← .ofExcept (namesOf p)
  .consult fun s => (orRefused (isThere s.disk names), s)

/-- Make the folder at a path and the missing ones above it. -/
def create (p : StoragePath) (strategy : FolderStrategy) : Attempt LocalStorage Unit := do
  let names ← .ofExcept (namesOf p)
  let absent ← .consult fun s => (orRefused (missing s.disk names names.length), s)
  .consult fun s => s.createMissing p strategy absent
  .emit .debug "Created local location" [("path", p.toText), ("created", toString absent.length)]

/-- What `delete` does to the disk. -/
def deleteAt (d : Disk) (names : List String) (recursive : Bool) :
    Except Disk.Fault Bool × Disk :=
  match d.stat names with
  | .error .notFound => (.ok false, d)
  | .error fault => (.error fault, d)
  | .ok (.file _) => match d.removeFile names with
    | .ok d => (.ok true, d)
    | .error fault => (.error fault, d)
  | .ok (.folder _) =>
    if recursive then
      match d.removeTree names with
      | (.ok (), d) => (.ok true, d)
      | (.error fault, d) => (.error fault, d)
    else match d.removeFolder names with
      | .ok d => (.ok true, d)
      | .error fault => (.error fault, d)

/-- Delete what is at a path, and take it off the schedule. -/
def delete (p : StoragePath) (recursive : Bool) : Attempt LocalStorage Bool := do
  let names ← .ofExcept (namesOf p)
  .consult fun s =>
    let (result, disk) := deleteAt s.disk names recursive
    (orRefused result, ⟨disk, release s.schedule names⟩)

/-- Remove one scheduled folder; one that is gone is passed over. -/
def removeScheduled (names : List String) : Action LocalStorage Unit := do
  let path := (StoragePath.mk "file" "" names).path
  match ← consult fun s =>
      let (result, disk) := s.disk.removeTree names
      (result, { s with disk }) with
  | .ok () => emit .debug "Deleted folder on exit" [("path", path)]
  | .error .notFound => pure ()
  | .error fault =>
    emit .warn "Failed to delete folder on exit" [("path", path), ("error", fault.message)]

/-- Give the storage up: remove the scheduled folders that are still there. -/
def giveUp : Action LocalStorage Unit := do
  let scheduled ← consult fun s => (s.schedule, { s with schedule := [] })
  scheduled.forM removeScheduled

end LocalStorage

end QuerySession
