import QuerySession.Session.Locations

/-!
# Overlapping calls on the locations of a session

Queries of one session ask for locations at the same time, and the session may be closed while they
do.  A call runs up to a point at which it has to wait: for the locations to be free, for another
call that is making the same location, for the answer of a storage.  Other calls run meanwhile.
This module is the machine of these calls; its steps are the single steps of `Locations`, and a
call that has the machine for itself does what `Locations.ensure` and `Locations.cleanup` do.

## Main Definitions

* `LocationCalls.Request`, `LocationCalls.Stage` — what a call asks for, and how far it has come
* `LocationCalls.Happening` — what can be seen of a step
* `LocationCalls` — the locations, the calls on them, and what has happened so far
* `LocationCalls.Move`, `LocationCalls.step`, `LocationCalls.run` — one step, and a schedule of
  steps

## Design Notes

The locations are shared by any number of `ensure` calls, or belong to one `cleanup` alone.  A
location is made by one call at a time; the others that need it wait, and look again when their turn
comes.  Who goes first is not decided here: every order is a schedule.

Storages may answer anything.  The answers are part of the moves, so that a statement about all
schedules is one about all storages.

A location is looked up by its path wherever a call comes back to it.  It cannot have been forgotten
in between, since only a `cleanup` forgets, and it has the locations for itself.
-/

namespace QuerySession

namespace LocationCalls

/-- What a call asks for. -/
inductive Request where
  /-- The location in a workspace. -/
  | ensure (w : Workspace)
  /-- The end of all locations. -/
  | cleanup
  deriving DecidableEq

/-- How far a call has come. -/
inductive Stage where
  /-- Waits for a share of the locations. -/
  | asking (w : Workspace)
  /-- Has a share, and saw that the locations are not closed. -/
  | admitted (w : Workspace)
  /-- Knows the location and the storage that goes with it; waits for its turn to make it. -/
  | waiting (path : StoragePath) (storage : String)
  /-- The storage is making the folder. -/
  | creating (path : StoragePath) (storage : String)
  /-- The storage says that the folder was made. -/
  | created (path : StoragePath) (storage : String)
  /-- The storage looks whether the folder is there. -/
  | probing (path : StoragePath) (storage : String)
  /-- Has its result, and still its share. -/
  | leaving (path : StoragePath) (result : Except Error StoragePath)
  /-- An `ensure` that returned. -/
  | ensured (path : StoragePath) (result : Except Error StoragePath)
  /-- Waits to have the locations for itself. -/
  | closing
  /-- Has them for itself; deletions not sent yet, deletions not answered yet, and how many
  found something so far. -/
  | deleting (left underway : List (StoragePath × String)) (count : Nat)
  /-- A `cleanup` that returned. -/
  | cleaned (count : Nat)

/-- What can be seen of a step. -/
inductive Happening where
  | called (call : Nat) (request : Request)
  /-- The locations were closed before the call had a share of them. -/
  | refused (call : Nat) (path : StoragePath)
  /-- The call has a share, and the locations are not closed. -/
  | admitted (call : Nat) (path : StoragePath)
  /-- The call looked its location up, and entered it if nobody had. -/
  | named (call : Nat) (w : Workspace)
  /-- The location is there already. -/
  | found (call : Nat) (path : StoragePath)
  | createSent (call : Nat) (storage : String) (path : StoragePath)
  | createAnswered (call : Nat) (storage : String) (path : StoragePath)
      (answer : Except Error Unit)
  | probeSent (call : Nat) (storage : String) (path : StoragePath)
  | probeAnswered (call : Nat) (storage : String) (path : StoragePath)
      (answer : Except Error Bool)
  /-- An `ensure` returned. -/
  | returned (call : Nat) (path : StoragePath) (result : Except Error StoragePath)
  /-- A `cleanup` has the locations for itself, and took them down. -/
  | locked (call : Nat)
  | deleteSent (call : Nat) (storage : String) (path : StoragePath) (recursive : Bool)
  | deleteAnswered (call : Nat) (storage : String) (path : StoragePath)
      (answer : Except Error Bool)
  /-- A `cleanup` returned. -/
  | cleaned (call : Nat) (count : Nat)

/-- One step of a schedule. -/
inductive Move where
  /-- A new call. -/
  | call (request : Request)
  /-- A call goes on by itself. -/
  | proceed (call : Nat)
  /-- A storage answers a call that makes a folder. -/
  | create (call : Nat) (answer : Except Error Unit)
  /-- A storage answers a call that looks for a folder. -/
  | probe (call : Nat) (answer : Except Error Bool)
  /-- A call sends its `k`th deletion that was not sent. -/
  | send (call k : Nat)
  /-- A storage answers the `k`th deletion under way of a call. -/
  | delete (call k : Nat) (answer : Except Error Bool)

namespace Stage

/-- Where a call begins. -/
def first : Request → Stage
  | .ensure w => asking w
  | .cleanup => closing

/-- Whether a call has a share of the locations. -/
def shares : Stage → Bool
  | admitted _ | waiting .. | creating .. | created .. | probing .. | leaving .. => true
  | asking _ | ensured .. | closing | deleting .. | cleaned _ => false

/-- Whether a call has the locations for itself. -/
def excludes : Stage → Bool
  | deleting .. => true
  | _ => false

/-- Whether a call is making the location at `path`. -/
def attempts (path : StoragePath) : Stage → Bool
  | creating p _ | created p _ | probing p _ => p = path
  | _ => false

/-- What the answer to a creation leads to. -/
def afterCreate (path : StoragePath) (storage uri : String) : Except Error Unit → Stage
  | .ok () => created path storage
  | .error e => leaving path (.error (Locations.provisionError path uri (.error e)))

/-- What the answer to a look leads to. -/
def afterProbe (path : StoragePath) (uri : String) : Except Error Bool → Stage
  | .ok true => leaving path (.ok path)
  | .ok false => leaving path (.error (Locations.provisionError path uri .unknown))
  | .error e => leaving path (.error (Locations.provisionError path uri (.error e)))

end Stage

/-- Whose step it was. -/
def Happening.caller : Happening → Nat
  | called i _ | refused i _ | admitted i _ | named i _ | found i _ | createSent i ..
  | createAnswered i .. | probeSent i .. | probeAnswered i .. | returned i .. | locked i
  | deleteSent i .. | deleteAnswered i .. | cleaned i _ => i

/-- Whether a storage answered yes. -/
def affirms : Except Error Bool → Bool
  | .ok true => true
  | _ => false

end LocationCalls

/-- The locations of a session, the calls on them in the order in which they were made, and what
has happened so far, oldest first. -/
structure LocationCalls where
  locations : Locations
  stages : List LocationCalls.Stage
  history : List LocationCalls.Happening

namespace LocationCalls

/-- No calls yet. -/
def idle (l : Locations) : LocationCalls := ⟨l, [], []⟩

/-- The calls that share the locations. -/
def readers (t : LocationCalls) : Nat := t.stages.countP Stage.shares

/-- The calls that have the locations for themselves. -/
def writers (t : LocationCalls) : Nat := t.stages.countP Stage.excludes

/-- The calls that are making the location at `path`. -/
def attemptsAt (t : LocationCalls) (path : StoragePath) : Nat :=
  t.stages.countP (Stage.attempts path)

/-- The path of the location in a workspace. -/
def pathIn (t : LocationCalls) (w : Workspace) : StoragePath := w.locationOf t.locations.sessionId

/-- A call was made. -/
def join (t : LocationCalls) (request : Request) : LocationCalls :=
  { t with
    stages := t.stages ++ [Stage.first request]
    history := t.history ++ [.called t.stages.length request] }

/-- Call `i` came to a stage, and the locations are `l` now. -/
def put (t : LocationCalls) (i : Nat) (stage : Stage) (happening : Happening) (l : Locations) :
    LocationCalls :=
  ⟨l, t.stages.set i stage, t.history ++ [happening]⟩

/-- Call `i` goes on by itself, unless it has to wait. -/
def proceed (t : LocationCalls) (i : Nat) : Stage → Option LocationCalls
  | .asking w =>
    let path := t.pathIn w
    if t.writers ≠ 0 then none
    else if t.locations.closed then
      some (t.put i (.leaving path (.error (Locations.closedError path))) (.refused i path)
        t.locations)
    else some (t.put i (.admitted w) (.admitted i path) t.locations)
  | .admitted w =>
    let path := t.pathIn w
    let (location, l) := t.locations.enter path w.storage
    some (t.put i (.waiting path location.storage) (.named i w) l)
  | .waiting path storage =>
    if t.locations.contains path then
      some (t.put i (.leaving path (.ok path)) (.found i path) t.locations)
    -- Somebody is making it; whether this call has to is seen when that attempt is over.
    else if t.attemptsAt path ≠ 0 then none
    else some (t.put i (.creating path storage) (.createSent i storage path) t.locations)
  | .created path storage =>
    some (t.put i (.probing path storage) (.probeSent i storage path) t.locations)
  | .leaving path result =>
    some (t.put i (.ensured path result) (.returned i path result) t.locations)
  | .closing =>
    if t.readers ≠ 0 ∨ t.writers ≠ 0 then none
    else
      let (ready, l) := t.locations.drain
      some (t.put i (.deleting ready [] 0) (.locked i) l)
  | .deleting [] [] count => some (t.put i (.cleaned count) (.cleaned i count) t.locations)
  | .deleting .. | .creating .. | .probing .. | .ensured .. | .cleaned _ => none

/-- One step, if it can be made; `uri` is the text that identifies a storage. -/
def step (uri : String → String) (t : LocationCalls) : Move → Option LocationCalls
  | .call request => some (t.join request)
  | .proceed i => t.stages[i]?.bind (t.proceed i)
  | .create i answer =>
    match t.stages[i]? with
    | some (.creating path storage) =>
      some (t.put i (Stage.afterCreate path storage (uri storage) answer)
        (.createAnswered i storage path answer) t.locations)
    | _ => none
  | .probe i answer =>
    match t.stages[i]? with
    | some (.probing path storage) =>
      some (t.put i (Stage.afterProbe path (uri storage) answer)
        (.probeAnswered i storage path answer)
        (if affirms answer then t.locations.settle path else t.locations))
    | _ => none
  | .send i k =>
    match t.stages[i]? with
    | some (.deleting left underway count) =>
      left[k]?.map fun e =>
        t.put i (.deleting (left.eraseIdx k) (underway ++ [e]) count)
          (.deleteSent i e.2 e.1 true) t.locations
    | _ => none
  | .delete i k answer =>
    match t.stages[i]? with
    | some (.deleting left underway count) =>
      underway[k]?.map fun e =>
        t.put i (.deleting left (underway.eraseIdx k)
          (count + (affirms answer).toNat))
          (.deleteAnswered i e.2 e.1 answer) t.locations
    | _ => none

/-- A schedule of steps, if all of them can be made. -/
def run (uri : String → String) (t : LocationCalls) (moves : List Move) : Option LocationCalls :=
  moves.foldlM (step uri) t

end LocationCalls

end QuerySession
