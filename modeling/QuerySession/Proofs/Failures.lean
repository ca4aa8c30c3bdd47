import QuerySession.Proofs.Session
import QuerySession.Proofs.LocationCalls.Alone
import QuerySession.Session.Calls
import QuerySession.Simulation.World

/-!
# Calls that fail

Six operations of a session can fail, at a dozen places: before anything was changed, between two
calls of the outside, and after a location came to be known.  Whoever looks at the session afterwards
sees what was there before.

The record of the session does change in one case.  A registration whose location cannot be had
leaves the location known, with the storage that is asked again at the next attempt.  Nobody can see
it, since only locations that are ready are listed, counted and deleted.

## Main Definitions

* `Session.attempt` — what a call answers, as far as it can fail, with the session it leaves
* `Session.Refuses` — every registration is refused, and no storage is asked
* `Session.Unchanged` — two sessions that nobody can tell apart

## Main Results

* `Session.refuses_iff` — it is the closed sessions that refuse
* `Session.failed_unchanged` — a call that fails changes nothing
* `Session.Unchanged.of_fail` — and neither does a run of calls that all fail
-/

namespace QuerySession

/-! ## Locations that cannot be had -/

namespace Locations

variable {l : Locations}

/-- A location that is only known is not listed. -/
theorem listing_enter (l : Locations) (path : StoragePath) (storage : String) :
    (l.enter path storage).2.paths = l.paths := by
  cases known : l.known.find? path with
  | some location => rw [enter_eq_of_known known]
  | none =>
    rw [enter_eq_of_unknown known]
    simp [paths, Keyed.entries_put_of_unknown known]

/-- What is left of the locations when one could not be had: it may have come to be known, and
nothing else has changed. -/
theorem ensure_error {σ : Type} {storages : Storages σ} {w : Workspace} {spans : List String}
    {scene after : Scene σ} {e : Error} {l' : Locations}
    (failed : (l.ensure storages w) spans scene = ((.error e, l'), after)) :
    l' = l ∨ l' = (l.enter (w.locationOf l.sessionId) w.storage).2 := by
  have answered := congrArg Prod.fst failed
  rw [ensure_eq] at answered
  split at answered
  · cases answered
    exact .inl rfl
  · dsimp only at answered
    split at answered
    · cases answered
    · split at answered
      · cases answered
      · cases answered
        exact .inr rfl

end Locations

namespace Session

variable {σ : Type} {storages : Storages σ} {workspaces : Workspaces σ} {s s' s'' : Session}
  {call : Call σ} {spans : List String} {scene after : Scene σ} {e : Error}

/-! ## What can be seen of a session -/

/-- Every registration is refused, whatever the storages are, and none of them is asked. -/
def Refuses (s : Session) : Prop :=
  ∀ (τ : Type) (storages : Storages τ) (w : Workspace) (name token : String) (spans : List String)
    (scene : Scene τ), (s.registerTable storages w name token) spans scene =
      ((.error (Locations.closedError (w.locationOf s.locations.sessionId)), s), scene)

/-- Storages that notice when something is to be made. -/
def noticing : Storages Bool where
  uri name := name
  probe _ _ := pure true
  create _ _ _ := .consult fun _ => (.ok (), true)
  delete _ _ _ := pure true

/-- A session that is closed refuses, and no other does. -/
theorem refuses_iff : s.Refuses ↔ s.locations.closed = true := by
  constructor
  · intro refuses
    by_contra open_
    -- A location that is not ready is made, which the storage notices; one that is ready is had.
    have asked := refuses Bool noticing ⟨"", "", "", ⟨"", "", []⟩⟩ "" "" [] ⟨false, []⟩
    have answered := congrArg Prod.fst asked
    have ensured := s.locations.ensure_eq noticing ⟨"", "", "", ⟨"", "", []⟩⟩ [] ⟨false, []⟩
    rw [registerTable_eq, ensured, if_neg open_] at answered
    dsimp only at answered
    split at answered
    · rename_i failed
      split at failed
      · cases failed
      · rw [Locations.provision_eq] at failed
        cases failed
    · cases answered
  · intro closed τ storages w name token spans scene
    have refused : (s.locations.ensure storages w) spans scene =
        ((.error (Locations.closedError (w.locationOf s.locations.sessionId)), s.locations), scene) := by
      rw [Locations.ensure, if_pos closed]
      rfl
    rw [registerTable, Action.bind_eq, refused]
    rfl

/-- Nobody can tell two sessions apart. -/
structure Unchanged (s s' : Session) : Prop where
  id : s'.id = s.id
  credentials : s'.credentials = s.credentials
  authority : s'.authority = s.authority
  properties : s'.properties = s.properties
  options : s'.options = s.options
  supportsComplexTypes : s'.supportsComplexTypes = s.supportsComplexTypes
  queryCount : s'.queryCount = s.queryCount
  resolves : ∀ name, s'.tables.resolve? name = s.tables.resolve? name
  tableCount : s'.tables.size = s.tables.size
  listed : s'.locations.paths = s.locations.paths
  contains : ∀ path, s'.locations.contains path = s.locations.contains path
  locationCount : s'.locations.size = s.locations.size
  refuses : s'.Refuses ↔ s.Refuses

namespace Unchanged

theorem refl (s : Session) : Unchanged s s :=
  ⟨rfl, rfl, rfl, rfl, rfl, rfl, rfl, fun _ => rfl, rfl, rfl, fun _ => rfl, rfl, .rfl⟩

theorem trans (first : Unchanged s s') (second : Unchanged s' s'') : Unchanged s s'' where
  id := second.id.trans first.id
  credentials := second.credentials.trans first.credentials
  authority := second.authority.trans first.authority
  properties := second.properties.trans first.properties
  options := second.options.trans first.options
  supportsComplexTypes := second.supportsComplexTypes.trans first.supportsComplexTypes
  queryCount := second.queryCount.trans first.queryCount
  resolves name := (second.resolves name).trans (first.resolves name)
  tableCount := second.tableCount.trans first.tableCount
  listed := second.listed.trans first.listed
  contains path := (second.contains path).trans (first.contains path)
  locationCount := second.locationCount.trans first.locationCount
  refuses := second.refuses.trans first.refuses

/-- A location that came to be known cannot be seen. -/
theorem entered (s : Session) (path : StoragePath) (storage : String) :
    Unchanged s { s with locations := (s.locations.enter path storage).2 } := by
  have listed := s.locations.listing_enter path storage
  refine ⟨rfl, rfl, rfl, rfl, rfl, rfl, rfl, fun _ => rfl, rfl, listed, fun other => ?_, ?_, ?_⟩
  · exact congrFun (s.locations.paths_enter path storage) other
  · exact congrArg List.length listed
  · rw [refuses_iff, refuses_iff, Locations.closed_enter]

end Unchanged

/-! ## What a call answers -/

/-- What a call answers, as far as it can fail, and the session afterwards. -/
def attempt (storages : Storages σ) (workspaces : Workspaces σ) (s : Session) :
    Call σ → Action σ (Except Error Unit × Session)
  | .actForTarget authority => s.actForTarget authority
  | .replaceCredentials authority credentials => s.replaceCredentials authority.id credentials
  | .setDefaultSchema path current => s.setDefaultSchema path current
  | .registerTable w name token => do
    let (result, s) ← s.registerTable storages w name token
    pure (result.map fun _ => (), s)
  | .isTemporaryTable w settings name => do
    let result ← (s.isTemporaryTable workspaces w settings name).outcome
    pure (result.map fun _ => (), s)
  | .removeTable w name => s.removeTable workspaces w name
  | call => do
    let s ← s.perform storages workspaces call
    pure (.ok (), s)

/-- The session that a call leaves is the same whether one looks at the answer or not. -/
theorem perform_eq (storages : Storages σ) (workspaces : Workspaces σ) (s : Session) (call : Call σ)
    (spans : List String) (scene : Scene σ) :
    (s.perform storages workspaces call) spans scene =
      (((s.attempt storages workspaces call) spans scene).1.2,
        ((s.attempt storages workspaces call) spans scene).2) := by
  cases call <;> rfl

/-! ## Calls that fail -/

/-- Credentials that were not replaced are the old ones. -/
theorem replaceCredentials_error {authority : AuthorityId} {credentials : Credentials}
    (failed : (s.replaceCredentials authority credentials) spans scene = ((.error e, s'), after)) :
    s' = s := by
  unfold replaceCredentials at failed
  split at failed
  · cases failed
    rfl
  · split at failed <;> cases failed
    rfl

/-- Nobody takes over who is not allowed to. -/
theorem actForTarget_error {authority : Authority}
    (failed : (s.actForTarget authority) spans scene = ((.error e, s'), after)) : s' = s := by
  unfold actForTarget at failed
  split at failed
  · cases failed
  · split at failed
    · cases failed
      rfl
    · rw [Action.bind_eq] at failed
      cases replaced : (s.replaceCredentials authority.id ⟨s.target?.getD ""⟩) spans scene with
      | mk done mid =>
        obtain ⟨result, left⟩ := done
        rw [replaced] at failed
        cases result with
        | error e =>
          cases failed
          exact replaceCredentials_error replaced
        | ok _ => cases failed

/-- The default schema stays when a path leads nowhere. -/
theorem setDefaultSchema_error {path : String} {current : SchemaNode}
    (failed : (s.setDefaultSchema path current) spans scene = ((.error e, s'), after)) : s' = s := by
  unfold setDefaultSchema at failed
  cases found : current.resolve path with
  | error e =>
    rw [found] at failed
    cases failed
    rfl
  | ok node =>
    rw [found] at failed
    cases failed

/-- A table is not registered when its location cannot be had, which may have come to be known. -/
theorem registerTable_error {w : Workspace} {name token : String}
    (failed : (s.registerTable storages w name token) spans scene = ((.error e, s'), after)) :
    s' = s ∨ s' = { s with
      locations := (s.locations.enter (w.locationOf s.locations.sessionId) w.storage).2 } := by
  have answered := congrArg Prod.fst failed
  rw [registerTable_eq] at answered
  cases asked : (s.locations.ensure storages w) spans scene with
  | mk done mid =>
    obtain ⟨result, locations⟩ := done
    rw [asked] at answered
    cases result with
    | ok path => cases answered
    | error e =>
      cases answered
      rcases Locations.ensure_error asked with rfl | rfl
      · exact .inl rfl
      · exact .inr rfl

/-- A table that cannot be dropped keeps its alias. -/
theorem removeTable_error {w : Workspace} {name : String}
    (failed : (s.removeTable workspaces w name) spans scene = ((.error e, s'), after)) : s' = s := by
  have answered := congrArg Prod.fst failed
  cases known : s.tables.resolve? name with
  | none =>
    rw [s.removeTable_of_unknown workspaces w known] at answered
    cases answered
  | some tableAlias =>
    rw [s.removeTable_of_known workspaces w known] at answered
    split at answered <;> cases answered
    rfl

/-- What a call that fails leaves: the session as it was, or with one more location that is only
known. -/
theorem attempt_error
    (failed : (s.attempt storages workspaces call) spans scene = ((.error e, s'), after)) :
    s' = s ∨ ∃ path storage, s' = { s with locations := (s.locations.enter path storage).2 } := by
  cases call with
  | actForTarget authority => exact .inl (actForTarget_error failed)
  | replaceCredentials authority credentials => exact .inl (replaceCredentials_error failed)
  | setDefaultSchema path current => exact .inl (setDefaultSchema_error failed)
  | registerTable w name token =>
    cases registered : (s.registerTable storages w name token) spans scene with
    | mk done mid =>
      obtain ⟨result, left⟩ := done
      have whole : (s.attempt storages workspaces (.registerTable w name token)) spans scene =
          ((result.map fun _ => (), left), mid) := by
        show (s.registerTable storages w name token >>= _) spans scene = _
        rw [Action.bind_eq, registered]
        rfl
      rw [whole] at failed
      cases result with
      | ok tableAlias => cases failed
      | error e =>
        cases failed
        exact (registerTable_error registered).imp_right fun same => ⟨_, _, same⟩
  | isTemporaryTable w settings name => exact .inl (congrArg (fun done => done.1.2) failed).symm
  | removeTable w name => exact .inl (removeTable_error failed)
  | _ => cases failed

/-- A session as a call that failed leaves it. -/
theorem Unchanged.of_left
    (left : s' = s ∨ ∃ path storage, s' = { s with locations := (s.locations.enter path storage).2 }) :
    Unchanged s s' := by
  obtain rfl | ⟨path, storage, rfl⟩ := left
  · exact .refl s'
  · exact .entered s path storage

/-- **A call that fails changes nothing**, whatever the session was like, and whatever storages and
workspaces have answered. -/
theorem failed_unchanged
    (failed : (s.attempt storages workspaces call) spans scene = ((.error e, s'), after)) :
    Unchanged s s' := .of_left (attempt_error failed)

/-- A storage that makes folders and cannot tell whether they are there. -/
def blindly : Scene World :=
  ⟨{ World.on .empty with
      memory := Keyed.empty.put "blind"
        { MemoryStorage.empty with faults := ⟨0, false, true, false⟩ } },
    []⟩

/-- A session that has a table. -/
def settledIn : Session :=
  (((ofRequest ⟨none, [("schema", "a.b")], false, false, none, []⟩ "s" ⟨"u"⟩).run (World.storages [])
    World.workspaces [.registerTable ⟨"w", "dfs.tmp", "mem", ⟨"memory", "", ["t"]⟩⟩ "t" "a",
      .submit "q"]) [] blindly).1

/-- A second table cannot be registered elsewhere.  The session knows one location more, and shows
the old one only. -/
theorem failed_unchanged_blindly : ∃ e s' after,
    (settledIn.attempt (World.storages []) World.workspaces
      (.registerTable ⟨"v", "dfs.tmp", "blind", ⟨"memory", "", ["v"]⟩⟩ "u" "b")) [] blindly =
        ((.error e, s'), after) ∧
      Unchanged settledIn s' ∧ s'.locations.known.size = 2 ∧ s'.locations.size = 1 := by
  have failed : (settledIn.attempt (World.storages []) World.workspaces
      (.registerTable ⟨"v", "dfs.tmp", "blind", ⟨"memory", "", ["v"]⟩⟩ "u" "b")) [] blindly =
        ((.error _, _), _) := rfl
  exact ⟨_, _, _, failed, failed_unchanged failed, rfl, rfl⟩

/-! ### Many calls that fail -/

/-- Calls that all fail, one after the other. -/
def Fail (storages : Storages σ) (workspaces : Workspaces σ) (spans : List String) :
    Session → Scene σ → List (Call σ) → Prop
  | _, _, [] => True
  | s, scene, call :: calls =>
    (∃ e, ((s.attempt storages workspaces call) spans scene).1.1 = .error e) ∧
      Fail storages workspaces spans ((s.perform storages workspaces call) spans scene).1
        ((s.perform storages workspaces call) spans scene).2 calls

/-- Any number of calls that fail change nothing. -/
theorem Unchanged.of_fail {calls : List (Call σ)}
    (fail : Fail storages workspaces spans s scene calls) :
    Unchanged s ((s.run storages workspaces calls) spans scene).1 := by
  induction calls generalizing s scene with
  | nil => exact .refl s
  | cons call calls ih =>
    obtain ⟨⟨e, first⟩, rest⟩ := fail
    have failed : (s.attempt storages workspaces call) spans scene =
        ((.error e, ((s.perform storages workspaces call) spans scene).1),
          ((s.perform storages workspaces call) spans scene).2) := by
      rw [perform_eq, ← first]
      rfl
    exact (Unchanged.of_left (attempt_error failed)).trans (ih rest)

end Session

end QuerySession
