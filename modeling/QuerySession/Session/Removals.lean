import QuerySession.Session.Registrations

/-!
# Overlapping removals of temporary tables

A removal looks the alias of a name up, has the table of this alias dropped, and then forgets the
alias of the name.  Other calls run while the table is being dropped: registrations and the end of
the session, which are those of `Registrations`, and other removals.

## Main Definitions

* `Removal` — how far a removal has come
* `Removals` — the calls on a session, its removals, and what the removals did so far
* `Removals.Move`, `Removals.step`, `Removals.run` — one step, and a schedule of steps

## Design Notes

The alias that a removal looked up stays with it up to the drop.  What it forgets is looked up
again, by the name.
-/

namespace QuerySession

/-- How far the removal of a table has come. -/
inductive Removal where
  /-- Has not looked the name up yet. -/
  | called (w : Workspace) (name : String)
  /-- The workspace is dropping the table. -/
  | dropping (w : Workspace) (name tableAlias : String)
  /-- The workspace has dropped the table; the name is not forgotten yet. -/
  | dropped (w : Workspace) (name tableAlias : String)
  /-- A removal that returned. -/
  | removed (name : String) (result : Except Error Unit)

namespace Removals

/-- What can be seen of a removal. -/
inductive Happening where
  /-- The name has no alias. -/
  | missed (call : Nat) (name : String)
  | dropSent (call : Nat) (workspace name tableAlias : String)
  | dropAnswered (call : Nat) (workspace tableAlias : String) (answer : Except Error Unit)
  /-- The name was forgotten, and with it the alias that it had. -/
  | forgot (call : Nat) (name : String) (taken : Option String)

/-- Whose step it was. -/
def Happening.caller : Happening → Nat
  | missed i _ | dropSent i .. | dropAnswered i .. | forgot i .. => i

/-- One step of a schedule. -/
inductive Move where
  /-- A step of the other calls on the session. -/
  | registrations (m : Registrations.Move)
  /-- A table is to be removed. -/
  | remove (w : Workspace) (name : String)
  /-- Removal `i` looks the name up. -/
  | look (i : Nat)
  /-- The workspace answers removal `i`. -/
  | answer (i : Nat) (answer : Except Error Unit)
  /-- Removal `i` goes on when its table was dropped. -/
  | forget (i : Nat)

end Removals

/-- The calls on a session: its registrations and ends, its removals in the order in which they were
made, and what the removals did so far, oldest first. -/
structure Removals where
  registrations : Registrations
  removals : List Removal
  history : List Removals.Happening

namespace Removals

/-- Nobody has called yet. -/
def ofSession (s : Session) : Removals := ⟨.ofSession s, [], []⟩

/-- The id by which the session makes its locations. -/
def sessionId (o : Removals) : String := o.registrations.calls.locations.sessionId

/-- What happened to the locations of the session so far, oldest first. -/
def passed (o : Removals) : List LocationCalls.Happening := o.registrations.calls.history

/-- Removal `i` came further, and the tables are `tables` now. -/
def put (o : Removals) (i : Nat) (removal : Removal) (happening : Happening) (tables : Tables) :
    Removals :=
  ⟨{ o.registrations with tables }, o.removals.set i removal, o.history ++ [happening]⟩

/-- One step, if it can be made; `uri` is the text that identifies a storage. -/
def step (uri : String → String) (o : Removals) : Move → Option Removals
  | .registrations m =>
    (o.registrations.step uri m).map fun registrations => { o with registrations }
  | .remove w name => some { o with removals := o.removals ++ [.called w name] }
  | .look i =>
    match o.removals[i]? with
    | some (.called w name) =>
      match o.registrations.tables.resolve? name with
      | none => some (o.put i (.removed name (.ok ())) (.missed i name) o.registrations.tables)
      | some tableAlias =>
        some (o.put i (.dropping w name tableAlias) (.dropSent i w.key name tableAlias)
          o.registrations.tables)
    | _ => none
  | .answer i answer =>
    match o.removals[i]? with
    | some (.dropping w name tableAlias) =>
      let happening := .dropAnswered i w.key tableAlias answer
      match answer with
      -- The alias stays, so that the removal can be tried again.
      | .error e => some (o.put i (.removed name (.error e)) happening o.registrations.tables)
      | .ok () => some (o.put i (.dropped w name tableAlias) happening o.registrations.tables)
    | _ => none
  | .forget i =>
    match o.removals[i]? with
    | some (.dropped _ name _) =>
      let (taken, tables) := o.registrations.tables.remove name
      some (o.put i (.removed name (.ok ())) (.forgot i name taken) tables)
    | _ => none

/-- A schedule of steps, if all of them can be made. -/
def run (uri : String → String) (o : Removals) (moves : List Move) : Option Removals :=
  moves.foldlM (step uri) o

end Removals

end QuerySession
