import QuerySession.Action
import QuerySession.Storage.Path

/-!
# Storages

What a session needs of the storages that hold its temporary tables: make a folder, see whether it
is there, delete it. Storages are outside of the library and go by names.

## Main Definitions

* `FolderStrategy` — how folders are made
* `Storages` — the calls
-/

namespace QuerySession

/-- How folders are made. -/
structure FolderStrategy where
  /-- The permission bits of new folders. -/
  permission : Nat
  /-- Whether the outermost new folder is removed when the storage is given up. -/
  deleteOnExit : Bool
  deriving DecidableEq

namespace FolderStrategy

/-- For the owner only, and not to last. -/
def temporary : FolderStrategy := ⟨0o700, true⟩

/-- For the owner and the group, to last. -/
def persistent : FolderStrategy := ⟨0o775, false⟩

end FolderStrategy

/-- The storages outside, by name. -/
structure Storages (σ : Type) where
  /-- The text that identifies a storage. -/
  uri : String → String
  /-- Whether something is at a path. -/
  probe : String → StoragePath → Attempt σ Bool
  /-- Make the folder at a path and the missing ones above it. -/
  create : String → StoragePath → FolderStrategy → Attempt σ Unit
  /-- Delete what is at a path, with all below it when asked to; whether there was something. -/
  delete : String → StoragePath → (recursive : Bool) → Attempt σ Bool

end QuerySession
