import QuerySession.Error.Basic
import QuerySession.Schema.Workspace

/-!
# Tables of simulated workspaces

What a workspace holds: tables and views by name. A workspace can be told to fail, so that what a
session does about failing workspaces can be rehearsed.

## Main Definitions

* `WorkspaceTables` — the tables and views; `WorkspaceTables.kindOf`, `WorkspaceTables.drop`
-/

namespace QuerySession

/-- Tables and views by name. -/
structure WorkspaceTables where
  kinds : Keyed String TableKind
  /-- Whether it cannot be seen what is there. -/
  failsToLook : Bool
  /-- Whether nothing can be dropped. -/
  failsToDrop : Bool
  deriving DecidableEq

namespace WorkspaceTables

/-- No tables, and no failures. -/
def empty : WorkspaceTables := ⟨.empty, false, false⟩

/-- A failed call. -/
def failure (message : String) : Error := .storage message "workspace" .unknown

/-- Put something under a name; whether the name was taken before. -/
def put (s : WorkspaceTables) (name : String) (kind : TableKind) : Bool × WorkspaceTables :=
  (s.kinds.contains name, { s with kinds := s.kinds.put name kind })

/-- Take away what is under a name; whether there was something. -/
def take (s : WorkspaceTables) (name : String) : Bool × WorkspaceTables :=
  (s.kinds.contains name, { s with kinds := s.kinds.erase name })

/-- What stands under a name. -/
def kindOf (s : WorkspaceTables) (name : String) : Except Error (Option TableKind) :=
  if s.failsToLook then .error (failure ("Cannot look up " ++ name)) else .ok (s.kinds.find? name)

/-- Drop what stands under a name. -/
def drop (s : WorkspaceTables) (name : String) : Except Error Unit × WorkspaceTables :=
  if s.failsToDrop then (.error (failure ("Cannot drop " ++ name)), s)
  else (.ok (), (s.take name).2)

end WorkspaceTables

end QuerySession
