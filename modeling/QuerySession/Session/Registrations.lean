import QuerySession.Session.Basic
import QuerySession.Session.LocationCalls

/-!
# Overlapping calls on a session

Registrations of temporary tables and the end of a session are calls on the locations with something
before or after.  This module puts them on top of the machine of `LocationCalls`: a registration has
its location asked for, and gives its table an alias when that call has returned; `close` has the
locations ended.

## Main Definitions

* `Errand` — how far a registration or a `close` has come
* `Registrations` — the calls on the locations, the tables and the errands of a session
* `Registrations.Move`, `Registrations.step`, `Registrations.run` — one step, and a schedule of
  steps
-/

namespace QuerySession

/-- A call on a session that uses the locations. -/
inductive Errand where
  /-- A table is to be registered when call `call` has its location. -/
  | registering (call : Nat) (name token : String)
  /-- A registration that returned. -/
  | registered (name : String) (result : Except Error String)
  /-- The session is to be closed, which call `call` does. -/
  | closing (call : Nat)
  /-- A `close` that returned. -/
  | closed (deleted : Nat)

/-- The calls on a session: those on its locations, its tables, and the errands in the order in
which they were made. -/
structure Registrations where
  calls : LocationCalls
  tables : Tables
  errands : List Errand

namespace Registrations

/-- One step of a schedule. -/
inductive Move where
  /-- A step of the calls on the locations. -/
  | locations (m : LocationCalls.Move)
  /-- A table is to be registered. -/
  | register (w : Workspace) (name token : String)
  /-- Registration `k` goes on when its location was asked for. -/
  | enlist (k : Nat)
  /-- The session is to be closed. -/
  | close
  /-- The `close` that is errand `k` goes on when the locations were ended. -/
  | report (k : Nat)

/-- Nobody has called yet. -/
def ofSession (s : Session) : Registrations := ⟨.idle s.locations, s.tables, []⟩

/-- A call on the locations is made for an errand. -/
def hand (d : Registrations) (request : LocationCalls.Request) (errand : Errand) : Registrations :=
  { d with calls := d.calls.join request, errands := d.errands ++ [errand] }

/-- Errand `k` came further. -/
def settle (d : Registrations) (k : Nat) (errand : Errand) (tables : Tables) : Registrations :=
  { d with tables, errands := d.errands.set k errand }

/-- One step, if it can be made; `uri` is the text that identifies a storage. -/
def step (uri : String → String) (d : Registrations) : Move → Option Registrations
  | .locations m => (d.calls.step uri m).map fun calls => { d with calls }
  | .register w name token =>
    some (d.hand (.ensure w) (.registering d.calls.stages.length name token))
  | .enlist k =>
    match d.errands[k]? with
    | some (.registering call name token) =>
      match d.calls.stages[call]? with
      | some (.ensured _ (.ok _)) =>
        let (tableAlias, tables) := d.tables.register name token
        some (d.settle k (.registered name (.ok tableAlias)) tables)
      | some (.ensured _ (.error e)) => some (d.settle k (.registered name (.error e)) d.tables)
      | _ => none
    | _ => none
  | .close => some (d.hand .cleanup (.closing d.calls.stages.length))
  | .report k =>
    match d.errands[k]? with
    | some (.closing call) =>
      match d.calls.stages[call]? with
      | some (.cleaned count) => some (d.settle k (.closed count) d.tables)
      | _ => none
    | _ => none

/-- A schedule of steps, if all of them can be made. -/
def run (uri : String → String) (d : Registrations) (moves : List Move) : Option Registrations :=
  moves.foldlM (step uri) d

end Registrations

end QuerySession
