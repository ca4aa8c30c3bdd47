import QuerySession.Session.Basic

/-!
# Sessions one call at a time

A service keeps any number of sessions and serves the calls on their temporary tables one after
the other, on the storages and workspaces outside; between two calls the outside may change.  The
service keeps account of what it told its clients.

## Main Definitions

* `Told` — what a client was told
* `Service` — the sessions, the outside, and what was told so far
* `Service.Call`, `Service.serve`, `Service.run` — one call, and a sequence of calls
-/

namespace QuerySession

/-- What the client of session `k` was told about a temporary table. -/
inductive Told where
  | registered (k : Nat) (name : String) (result : Except Error String)
  /-- The alias that the name had is noted as well. -/
  | removed (k : Nat) (name : String) (had : Option String) (result : Except Error Unit)
  | resolved (k : Nat) (name : String) (answer : Option String)
  | checked (k : Nat) (name : String) (result : Except Error Bool)
  | closed (k : Nat)

/-- The sessions in the order in which they were built, the outside with the events so far, and what
clients were told, oldest first. -/
structure Service (σ : Type) where
  sessions : List Session
  scene : Scene σ
  history : List Told

namespace Service

variable {σ : Type}

/-- A call of a client, or a change of the outside. -/
inductive Call (σ : Type) where
  /-- A session is built. -/
  | welcome (r : SessionRequest) (id : String)
  | register (k : Nat) (w : Workspace) (name token : String)
  | remove (k : Nat) (w : Workspace) (name : String)
  | resolve (k : Nat) (name : String)
  /-- Is a name a temporary table? -/
  | check (k : Nat) (w : Workspace) (settings : TemporarySettings) (name : String)
  | close (k : Nat)
  /-- Storages and workspaces change. -/
  | outside (change : σ → σ)

/-- No sessions yet. -/
def opened (scene : Scene σ) : Service σ := ⟨[], scene, []⟩

/-- A call on session `k`, if there is one. -/
def on (v : Service σ) (spans : List String) (k : Nat)
    (call : Session → Action σ (Told × Session)) : Service σ :=
  match v.sessions[k]? with
  | none => v
  | some s =>
    let ((told, s), scene) := call s spans v.scene
    ⟨v.sessions.set k s, scene, v.history ++ [told]⟩

/-- Serve one call. -/
def serve (storages : Storages σ) (workspaces : Workspaces σ) (spans : List String)
    (v : Service σ) : Call σ → Service σ
  | .welcome r id =>
    match (Session.build r id).outcome spans v.scene with
    | (.ok s, scene) => { v with sessions := v.sessions ++ [s], scene }
    | (.error _, scene) => { v with scene }
  | .register k w name token => v.on spans k fun s => do
    let (result, s) ← s.registerTable storages w name token
    pure (.registered k name result, s)
  | .remove k w name => v.on spans k fun s => do
    let had := s.tables.resolve? name
    let (result, s) ← s.removeTable workspaces w name
    pure (.removed k name had result, s)
  | .resolve k name => v.on spans k fun s =>
    pure (.resolved k name (s.tables.resolve? name), s)
  | .check k w settings name => v.on spans k fun s => do
    let result ← (s.isTemporaryTable workspaces w settings name).outcome
    pure (.checked k name result, s)
  | .close k => v.on spans k fun s => do
    let s ← s.close storages
    pure (.closed k, s)
  | .outside change => { v with scene := { v.scene with outside := change v.scene.outside } }

/-- Serve calls one after the other. -/
def run (storages : Storages σ) (workspaces : Workspaces σ) (spans : List String)
    (v : Service σ) (calls : List (Call σ)) : Service σ :=
  calls.foldl (serve storages workspaces spans) v

end Service

end QuerySession
