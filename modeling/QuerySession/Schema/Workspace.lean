import QuerySession.Action
import QuerySession.Storage.Path

/-!
# Workspaces

A workspace is a schema that holds temporary tables: it has a name, a storage, and a root under
which every session has its location. The tables themselves are outside of the library.

## Main Definitions

* `Workspace` — name, storage and root
* `Workspaces` — the calls on the tables of workspaces
-/

namespace QuerySession

/-- What stands under a name in a schema. -/
inductive TableKind where
  | table
  | view
  deriving DecidableEq

/-- A schema that holds temporary tables. -/
structure Workspace where
  /-- By which it is known outside. -/
  key : String
  /-- The dotted name of the schema. -/
  schema : String
  /-- The name of the storage. -/
  storage : String
  /-- Under which sessions have their locations. -/
  root : StoragePath
  deriving DecidableEq

/-- The location of a session in a workspace. -/
def Workspace.locationOf (w : Workspace) (sessionId : String) : StoragePath :=
  w.root.join sessionId

/-- The tables of the workspaces outside, by the workspaces' keys. -/
structure Workspaces (σ : Type) where
  /-- What stands under a name, if anything. -/
  kindOf : String → String → Attempt σ (Option TableKind)
  /-- Drop what stands under a name. -/
  drop : String → String → Attempt σ Unit

end QuerySession
