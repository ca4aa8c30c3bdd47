import QuerySession.Storage.Access

/-!
# Storages kept in memory

A storage that remembers paths and nothing else. It counts its calls and can be told to fail, so
that what a session does about failing storages can be rehearsed.

## Main Definitions

* `StorageFaults` — how a storage misbehaves
* `MemoryStorage` — the storage; `MemoryStorage.create`, `MemoryStorage.probe`,
  `MemoryStorage.delete`
-/

namespace QuerySession

/-- How a storage misbehaves. -/
structure StorageFaults where
  /-- How many of the next creations fail. -/
  creations : Nat
  /-- Whether creations succeed without leaving anything. -/
  phantoms : Bool
  /-- Whether it cannot be seen what is there. -/
  probes : Bool
  /-- Whether deletions fail. -/
  deletions : Bool
  deriving DecidableEq

/-- A storage that does not misbehave. -/
def StorageFaults.none : StorageFaults := ⟨0, false, false, false⟩

/-- Paths in memory, with what was asked of the storage. -/
structure MemoryStorage where
  paths : List StoragePath
  deletions : Nat
  probes : Nat
  /-- The strategy of every creation, oldest first. -/
  creations : List FolderStrategy
  faults : StorageFaults
  deriving DecidableEq

namespace MemoryStorage

/-- A storage in which nothing happened. -/
def empty : MemoryStorage := ⟨[], 0, 0, [], .none⟩

/-- The text that identifies a storage. -/
def uri (name : String) : String := "memory://" ++ name

/-- A failed call. -/
def failure (message : String) : Error := .storage message "memory" .unknown

/-- Forget all paths. -/
def forget (m : MemoryStorage) : MemoryStorage := { m with paths := [] }

/-- Make a path. -/
def create (m : MemoryStorage) (path : StoragePath) (strategy : FolderStrategy) :
    Except Error Unit × MemoryStorage :=
  let m := { m with creations := m.creations ++ [strategy] }
  if 0 < m.faults.creations then
    (.error (failure "disk full"),
      { m with faults := { m.faults with creations := m.faults.creations - 1 } })
  else if m.faults.phantoms ∨ path ∈ m.paths then (.ok (), m)
  else (.ok (), { m with paths := m.paths ++ [path] })

/-- Whether a path is there. -/
def probe (m : MemoryStorage) (path : StoragePath) : Except Error Bool × MemoryStorage :=
  (if m.faults.probes then .error (failure "exists failed") else .ok (decide (path ∈ m.paths)),
    { m with probes := m.probes + 1 })

/-- Delete a path; whether it was there. -/
def delete (m : MemoryStorage) (path : StoragePath) : Except Error Bool × MemoryStorage :=
  let m := { m with deletions := m.deletions + 1 }
  if m.faults.deletions then (.error (failure "permission denied"), m)
  else (.ok (decide (path ∈ m.paths)), { m with paths := m.paths.filter (· ≠ path) })

end MemoryStorage

end QuerySession
