import QuerySession.Session.Removals

/-!
# Sessions side by side

Any number of sessions run at the same time, on workspaces and storages that they share.  A step is
one of a single session; what its storages do meanwhile changes what they hold, which is the same for
all.  Sessions come at any time, and whoever else uses the storages may change what they hold.

## Main Definitions

* `ConcurrentSessions` — the sessions, and what the storages hold
* `ConcurrentSessions.Move`, `ConcurrentSessions.step`, `ConcurrentSessions.run` — one step, and a
  schedule of steps

## Design Notes

What storages hold is of any type, and so is what becomes of it when a call of theirs was made or
answered.  What storages answer is part of the moves, and need not go with what they hold.
-/

namespace QuerySession

/-- The calls on each session, in the order in which the sessions came, and what the storages hold. -/
structure ConcurrentSessions (ρ : Type) where
  sessions : List Removals
  held : ρ

namespace ConcurrentSessions

variable {ρ : Type}

/-- One step of a schedule. -/
inductive Move (ρ : Type) where
  /-- A session comes. -/
  | welcome (r : SessionRequest) (id : String) (credentials : Credentials)
  /-- A step of the calls on session `k`. -/
  | session (k : Nat) (m : Removals.Move)
  /-- The storages hold something else. -/
  | others (held : ρ)

/-- One step, if it can be made; `uri` is the text that identifies a storage, and `keep` what the
storages hold when something happened to the locations of a session. -/
def step (uri : String → String) (keep : ρ → LocationCalls.Happening → ρ)
    (f : ConcurrentSessions ρ) : Move ρ → Option (ConcurrentSessions ρ)
  | .welcome r id credentials =>
    some { f with sessions := f.sessions ++ [.ofSession (.ofRequest r id credentials)] }
  | .session k m =>
    f.sessions[k]?.bind fun o => (o.step uri m).map fun o' =>
      -- Only what is new has become of a step.
      ⟨f.sessions.set k o', (o'.passed.drop o.passed.length).foldl keep f.held⟩
  | .others held => some { f with held }

/-- A schedule of steps, if all of them can be made. -/
def run (uri : String → String) (keep : ρ → LocationCalls.Happening → ρ) (f : ConcurrentSessions ρ)
    (moves : List (Move ρ)) : Option (ConcurrentSessions ρ) :=
  moves.foldlM (step uri keep) f

end ConcurrentSessions

end QuerySession
