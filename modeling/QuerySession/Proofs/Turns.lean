import QuerySession.Proofs.Session
import QuerySession.Proofs.LocationCalls.Alone
import QuerySession.Session.Calls

/-!
# What a run leaves of a session

A run of calls on a session asks storages and workspaces on its way.  All that the session takes from
them is whether they did what was asked: a storage that has provided a location, a workspace that has
dropped a table.  With the calls and these answers on record what a run leaves of the session can be
told without the outside, one call after the other.

## Main Definitions

* `Session.answer?` — whether the outside did what a call needs, if it is asked
* `Session.left` — a session after a call, by the answer
* `Session.turns` — the calls of a run, with the answers

## Main Results

* `Session.perform_left` — what one call leaves
* `Session.run_left` — what a run leaves
* `Session.run_invariant` — what a run preserves

## Implementation Notes

`perform_left` says everything that a call can do to a session, failures included; whatever is kept of a
session by all calls can be read off `left`.
-/

namespace QuerySession

variable {σ : Type}

/-! ## Locations, by the answer of a storage -/

/-- Whether the location of a session in a workspace is there in the end, and what is known then;
`provided` tells whether the storage has provided it, if it was asked. -/
def Locations.ensured (l : Locations) (w : Workspace) (provided : Bool) : Bool × Locations :=
  let path := w.locationOf l.sessionId
  if l.closed then (false, l)
  else
    let (location, entered) := l.enter path w.storage
    if location.ready then (true, entered)
    else if provided then (true, entered.settle path)
    else (false, entered)

/-- Whether a storage provides the location of a session in a workspace, if it is asked. -/
def Locations.provided? (storages : Storages σ) (l : Locations) (w : Workspace) (scene : Scene σ) :
    Option Bool :=
  let path := w.locationOf l.sessionId
  let (location, entered) := l.enter path w.storage
  if l.closed || location.ready then none
  else some ((provision storages location.storage path).outcome entered.spans scene).1.isOk

/-- What `ensure` leaves, and whether it succeeds. -/
theorem Locations.ensure_ensured (storages : Storages σ) (l : Locations) (w : Workspace)
    (spans : List String) (scene : Scene σ) :
    let done := ((l.ensure storages w) spans scene).1
    (done.1.isOk, done.2) = l.ensured w ((l.provided? storages w scene).getD false) := by
  intro done
  have done_eq : done = _ := l.ensure_eq storages w spans scene
  rw [done_eq, ensured, provided?]
  by_cases shut : l.closed = true
  · rw [if_pos shut, if_pos shut]
    rfl
  · rw [if_neg shut, if_neg shut, Bool.eq_false_iff.mpr shut]
    simp only [Bool.false_or]
    generalize l.enter (w.locationOf l.sessionId) w.storage = first
    obtain ⟨location, entered⟩ := first
    by_cases ready : location.ready = true
    · simp only [if_pos ready]
      rfl
    · simp only [if_neg ready]
      cases ((provision storages location.storage
        (w.locationOf l.sessionId)).outcome entered.spans scene).1 <;> rfl

namespace Session

variable {storages : Storages σ} {workspaces : Workspaces σ} {spans : List String} {s : Session}

/-! ## One call -/

/-- Whether the outside does what a call needs of it, if it is asked: whether a storage provides a
location, whether a workspace drops a table. -/
def answer? (storages : Storages σ) (workspaces : Workspaces σ) (s : Session) (scene : Scene σ) :
    Call σ → Option Bool
  | .registerTable w _ _ => s.locations.provided? storages w scene
  | .removeTable w name => (s.tables.resolve? name).map fun tableAlias =>
    ((workspaces.drop w.key tableAlias).outcome s.spans scene).1.isOk
  | _ => none

/-- A session after a call, by what the outside has answered. -/
def left (s : Session) : Call σ → Option Bool → Session
  | .actForTarget authority, _ => s.takenOver authority
  | .replaceCredentials authority credentials, _ =>
    if s.authority = some authority.id ∧ credentials.userName ≠ "" then { s with credentials } else s
  | .setDefaultSchema path current, _ =>
    match current.resolve path with
    | .error _ => s
    | .ok node => { s with properties := s.properties.set Properties.schema node.canonical }
  | .setOption v, _ => { s with options := s.options.set v }
  | .applyOptions vs, _ => { s with options := s.options.applyAll vs }
  | .submit _, _ => { s with queryCount := s.queryCount + 1 }
  | .registerTable w name token, answer =>
    let (there, locations) := s.locations.ensured w (answer.getD false)
    { s with locations, tables := if there then (s.tables.register name token).2 else s.tables }
  | .removeTable _ name, answer =>
    if answer.getD false then { s with tables := (s.tables.remove name).2 } else s
  | .close, _ => { s with locations := s.locations.drain.2 }
  | .isTemporaryTable .., _ | .outside _, _ => s

/-- **What one call leaves** of a session. -/
theorem perform_left (storages : Storages σ) (workspaces : Workspaces σ) (s : Session)
    (call : Call σ) (spans : List String) (scene : Scene σ) :
    ((s.perform storages workspaces call) spans scene).1 =
      s.left call (s.answer? storages workspaces scene call) := by
  cases call with
  | actForTarget authority => exact s.actForTarget_left authority spans scene
  | replaceCredentials authority credentials =>
    exact s.replaceCredentials_left authority.id credentials spans scene
  | setDefaultSchema path current => exact s.setDefaultSchema_left path current spans scene
  | registerTable w name token =>
    show ((s.registerTable storages w name token) spans scene).1.2 = _
    have ensured : (_, _) = _ := s.locations.ensure_ensured storages w spans scene
    rw [registerTable_eq]
    simp only [left, answer?, ← ensured]
    cases ((s.locations.ensure storages w) spans scene).1 with
    | mk result locations => cases result <;> rfl
  | removeTable w name =>
    show ((s.removeTable workspaces w name) spans scene).1.2 = _
    cases known : s.tables.resolve? name with
    | none =>
      rw [removeTable_of_unknown workspaces s w known]
      simp only [left, answer?, known]
      rfl
    | some tableAlias =>
      rw [removeTable_of_known workspaces s w known]
      simp only [left, answer?, known, Option.map_some]
      cases ((workspaces.drop w.key tableAlias).outcome s.spans scene).1 <;> rfl
  | _ => rfl

/-! ## A whole run -/

/-- The calls of a run, each with what the outside answered to it. -/
def turns (storages : Storages σ) (workspaces : Workspaces σ) (spans : List String) (s : Session)
    (scene : Scene σ) : List (Call σ) → List (Call σ × Option Bool)
  | [] => []
  | call :: calls =>
    let after := (s.perform storages workspaces call) spans scene
    (call, s.answer? storages workspaces scene call) ::
      after.1.turns storages workspaces spans after.2 calls

/-- **What a run leaves** of a session, by its calls and the answers. -/
theorem run_left (storages : Storages σ) (workspaces : Workspaces σ) (s : Session)
    (calls : List (Call σ)) (spans : List String) (scene : Scene σ) :
    ((s.run storages workspaces calls) spans scene).1 =
      (s.turns storages workspaces spans scene calls).foldl (fun s turn => s.left turn.1 turn.2) s := by
  induction calls generalizing s scene with
  | nil => rfl
  | cons call calls ih =>
    have first := perform_left storages workspaces s call spans scene
    rw [turns, List.foldl_cons, ← first]
    exact ih _ _

/-- What every call preserves is preserved by a run. -/
theorem run_invariant {P : Session → Prop}
    (step : ∀ (s : Session) (call : Call σ) answer, P s → P (s.left call answer)) (start : P s)
    (storages : Storages σ) (workspaces : Workspaces σ) (calls : List (Call σ)) (spans : List String)
    (scene : Scene σ) : P ((s.run storages workspaces calls) spans scene).1 := by
  rw [run_left]
  generalize s.turns storages workspaces spans scene calls = turns
  induction turns generalizing s with
  | nil => exact start
  | cons turn turns ih => exact ih (step s turn.1 turn.2 start)

/-- The calls that are on record are those that were made. -/
theorem map_fst_turns (s : Session) (scene : Scene σ) (calls : List (Call σ)) :
    (s.turns storages workspaces spans scene calls).map Prod.fst = calls := by
  induction calls generalizing s scene with
  | nil => rfl
  | cons call calls ih => exact congrArg (call :: ·) (ih _ _)

end Session

end QuerySession
