import QuerySession.Session.Basic

/-!
# The life of a session

Everything that can be asked of a session and may change it, as data, so that a statement about all
that a session can go through is one about all lists of calls.  The outside may change between two
calls.

## Main Definitions

* `Session.Call` — what can be asked of a session
* `Session.perform`, `Session.run` — one call, and a sequence of calls

## Design Notes

What a call answers is left to the operation itself; a run keeps the session and the scene only.
Looking at a session changes nothing, and is not a call.
-/

namespace QuerySession.Session

/-- What can be asked of a session, or changes around it. -/
inductive Call (σ : Type) where
  /-- An authority lets the user that the client asked to act for take over. -/
  | actForTarget (authority : Authority)
  /-- Someone replaces the credentials with the token of an authority. -/
  | replaceCredentials (authority : Authority) (credentials : Credentials)
  | setDefaultSchema (path : String) (current : SchemaNode)
  | setOption (v : OptionValue)
  | applyOptions (vs : List OptionValue)
  | submit (queryId : String)
  | registerTable (w : Workspace) (name token : String)
  | isTemporaryTable (w : Workspace) (settings : TemporarySettings) (name : String)
  | removeTable (w : Workspace) (name : String)
  | close
  /-- Storages and workspaces change. -/
  | outside (change : σ → σ)

variable {σ : Type}

/-- The session after one call, whether the call succeeded or not. -/
def perform (storages : Storages σ) (workspaces : Workspaces σ) (s : Session) :
    Call σ → Action σ Session
  | .actForTarget authority => do
    let (_, s) ← s.actForTarget authority
    pure s
  | .replaceCredentials authority credentials => do
    let (_, s) ← s.replaceCredentials authority.id credentials
    pure s
  | .setDefaultSchema path current => do
    let (_, s) ← s.setDefaultSchema path current
    pure s
  | .setOption v => pure { s with options := s.options.set v }
  | .applyOptions vs => pure { s with options := s.options.applyAll vs }
  | .submit queryId => s.submit queryId
  | .registerTable w name token => do
    let (_, s) ← s.registerTable storages w name token
    pure s
  | .isTemporaryTable w settings name => do
    let _ ← (s.isTemporaryTable workspaces w settings name).outcome
    pure s
  | .removeTable w name => do
    let (_, s) ← s.removeTable workspaces w name
    pure s
  | .close => s.close storages
  | .outside change => consult fun outside => (s, change outside)

/-- The session after calls, made one after the other. -/
def run (storages : Storages σ) (workspaces : Workspaces σ) (s : Session)
    (calls : List (Call σ)) : Action σ Session :=
  calls.foldlM (perform storages workspaces) s

end QuerySession.Session
