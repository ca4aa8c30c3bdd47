import QuerySession.Schema.Workspace
import QuerySession.Storage.Access

/-!
# Temporary locations of a session

The temporary tables of a session lie in one folder for each workspace root it uses. A folder is
made when it is first needed, and is ready once its storage has confirmed that it is there; a
failed attempt leaves it to the next call. When the session is closed, all that are ready are
deleted, and no more are made.

## Main Definitions

* `Locations` — what is known of the locations
* `Locations.enter`, `Locations.settle`, `Locations.drain` — the single steps
* `Locations.ensure`, `Locations.cleanup` — the operations made of them

## Design Notes

A location keeps the storage of the workspace that named it first, also when another workspace
with the same root makes the attempt that succeeds.
-/

namespace QuerySession

/-- One location. -/
structure Location where
  /-- The name of its storage. -/
  storage : String
  /-- Whether it is known to be there. -/
  ready : Bool
  deriving DecidableEq

/-- The locations of a session. -/
structure Locations where
  sessionId : String
  known : Keyed StoragePath Location
  /-- Whether they were cleaned up, for good. -/
  closed : Bool
  spans : List String
  deriving DecidableEq

namespace Locations

/-- No locations yet. -/
def forSession (sessionId : String) (spans : List String) : Locations :=
  ⟨sessionId, .empty, false, spans ++ ["temporary_locations"]⟩

/-- The circumstances of a location that cannot be had. -/
def context : Context := (Context.of "temporary_locations").during "ensure"

/-- A location refused since the session is closed. -/
def closedError (path : StoragePath) : Error :=
  .plain (.locationMissing path.path) (context.noting "reason" "session closed")

/-- A location that a storage could not provide. -/
def provisionError (path : StoragePath) (uri : String) (cause : Cause) : Error :=
  .failed (.locationMissing path.path) (context.noting "storage" uri) cause

/-! ### Single steps -/

/-- Come to know a location, unless it is known; answers what is known of it then. -/
def enter (l : Locations) (path : StoragePath) (storage : String) : Location × Locations :=
  match l.known.find? path with
  | some location => (location, l)
  | none => (⟨storage, false⟩, { l with known := l.known.put path ⟨storage, false⟩ })

/-- Note that a location is there. -/
def settle (l : Locations) (path : StoragePath) : Locations :=
  { l with known := l.known.modify path fun location => { location with ready := true } }

/-- Close, and forget all locations; answers those that were ready, with their storages. -/
def drain (l : Locations) : List (StoragePath × String) × Locations :=
  ((l.known.entries.filter (·.2.ready)).map fun e => (e.1, e.2.storage),
    { l with known := .empty, closed := true })

/-! ### Views -/

/-- The locations that are ready. -/
def paths (l : Locations) : List StoragePath :=
  (l.known.entries.filter (·.2.ready)).map Prod.fst

/-- Whether a location is ready. -/
def contains (l : Locations) (path : StoragePath) : Bool := (l.known.find? path).any (·.ready)

/-- The number of locations that are ready. -/
def size (l : Locations) : Nat := l.paths.length

/-- Whether no location is ready. -/
def isEmpty (l : Locations) : Bool := l.size == 0

/-! ### Operations -/

variable {σ : Type}

/-- Turn the error of a storage into one about the location. -/
def blaming (path : StoragePath) (uri : String) {α : Type} (x : Attempt σ α) : Attempt σ α :=
  ExceptT.mk do
    match ← x.outcome with
    | .ok a => pure (.ok a)
    | .error e => pure (.error (provisionError path uri (.error e)))

/-- Make the folder of a location and see that it is there. -/
def provision (storages : Storages σ) (storage : String) (path : StoragePath) :
    Attempt σ Unit := do
  let uri := storages.uri storage
  blaming path uri (storages.create storage path .temporary)
  let found ← blaming path uri (storages.probe storage path)
  if found then
    .emit .info "Created session temporary location" [("path", path.path), ("storage", uri)]
  else .ofExcept (.error (provisionError path uri .unknown))

/-- Make sure that the session's location in a workspace is there; answers its path. -/
def ensure (storages : Storages σ) (l : Locations) (w : Workspace) :
    Action σ (Except Error StoragePath × Locations) := do
  let path := w.locationOf l.sessionId
  if l.closed then pure (.error (closedError path), l)
  else
    -- The storage that is asked is the one noted at the first attempt.
    let (location, l) := l.enter path w.storage
    if location.ready then pure (.ok path, l)
    else match ← within l.spans (provision storages location.storage path).outcome with
      | .ok () => pure (.ok path, l.settle path)
      | .error e => pure (.error e, l)

/-- Delete one location; whether there was something to delete. -/
def deleteOne (storages : Storages σ) (path : StoragePath) (storage : String) :
    Action σ Bool := do
  let uri := storages.uri storage
  match ← (storages.delete storage path true).outcome with
  | .ok deleted => do
    emit .info "Deleted session temporary location"
      [("path", path.path), ("storage", uri), ("deleted", toString deleted)]
    pure deleted
  | .error e => do
    emit .warn "Error during session temporary location deletion"
      [("path", path.path), ("storage", uri), ("error", e.message)]
    pure false

/-- Delete locations one after the other; answers how many there were. -/
def deleteAll (storages : Storages σ) : List (StoragePath × String) → Action σ Nat
  | [] => pure 0
  | (path, storage) :: rest => do
    let deleted ← deleteOne storages path storage
    let count ← deleteAll storages rest
    pure ((if deleted then 1 else 0) + count)

/-- Close: delete all locations that are ready, and refuse new ones from now on. A deletion that
fails is reported and does not stop the others. -/
def cleanup (storages : Storages σ) (l : Locations) : Action σ (Nat × Locations) := do
  let (ready, l) := l.drain
  let count ← within l.spans (deleteAll storages ready)
  pure (count, l)

/-! ### Lemmas -/

/-- Coming to know a location makes none ready. -/
theorem paths_enter (l : Locations) (path : StoragePath) (storage : String) :
    (l.enter path storage).2.contains = l.contains := by
  funext other
  unfold enter
  split
  · rfl
  · rename_i h
    simp only [contains, Keyed.find?_put]
    split
    · rename_i e
      subst e
      simp [h]
    · rfl

end Locations

end QuerySession
