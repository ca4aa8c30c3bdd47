import QuerySession.Proofs.Removals.Forgetting
import QuerySession.Proofs.Storage.Clearing
import QuerySession.Proofs.Storage.Names

/-!
# Tables live inside the locations that are deleted

The alias of a table is made by the tables of a session, the path of a location by its locations, and
the path at which a planner puts the table by neither: it goes down from the root of the workspace by
the alias.  What makes the end of a session take the table away is that all three agree.

How the calls on a session overlap does not matter, and neither does what storages have answered until
the session is closed, nor what others have done to the disk.  From the moment on at which the closing
has the locations for itself, nobody else changes the disk.

## Main Definitions

* `Removals.Registered` — a registration was answered with an alias
* `Removals.Housed` — what holds of the tables of a session

## Main Results

* `LocationCalls.Reachable.deleted_of_granted`, `LocationCalls.Reachable.granted_of_deleted` — the
  first closing deletes what was granted, and nothing else
* `Removals.Reached.lodged` — where an alias comes from, and that the location is there
* `Removals.Reached.housed` — tables live inside the locations that are deleted
-/

namespace QuerySession

/-! ## What a closing deletes -/

namespace LocationCalls

variable {uri : String → String} {t : LocationCalls} {before during after : List Happening}
  {i count : Nat}

/-- Paths are answered before the locations are closed. -/
theorem Reachable.granted_before (h : Reachable uri t) {later : List Happening}
    (split : t.history = before ++ .locked i :: later) {path : StoragePath}
    (granted : Granted path t.history) : Granted path before := by
  obtain ⟨j, mem⟩ := granted
  rw [split] at mem
  rcases List.mem_append.mp mem with early | late
  · exact ⟨j, early⟩
  rcases List.mem_cons.mp late with here | late
  · cases here
  -- Whoever answers a path is inside, and nobody is any more.
  obtain ⟨u, v, reached, locked, taken⟩ := h.moment_since split late
  have nobody := reached.gate.nobody_inside (reached.closed_iff.mpr ⟨i, locked⟩)
  cases taken with
  | moved at_ shift =>
    cases shift with
    | returned => cases not_of_countP_eq_zero nobody at_

/-- Nothing was deleted before the locations were closed. -/
theorem Reachable.answers_eq_zero (h : Reachable uri t) (open_ : ∀ j, .locked j ∉ t.history)
    (path : StoragePath) : tally (Happening.answers path) t.history = 0 := by
  have closed : t.locations.closed = false := by
    by_contra closed
    obtain ⟨j, mem⟩ := h.closed_iff.mp (Bool.not_eq_false _ ▸ closed)
    exact open_ j mem
  have sent := h.answers_eq path
  have none_ := h.deletes_eq path
  rw [closed, if_neg Bool.false_ne_true] at none_
  omega

/-- **A closing deletes only what was granted.** -/
theorem Reachable.granted_of_deleted (h : Reachable uri t)
    (split : t.history = before ++ .locked i :: (during ++ .cleaned i count :: after)) {j : Nat}
    {storage : String} {path : StoragePath} {answer : Except Error Bool}
    (mem : .deleteAnswered j storage path answer ∈ during) : Granted path t.history := by
  have returned : .cleaned i count ∈ t.history := by
    rw [split]
    simp
  have here : .deleteAnswered j storage path answer ∈ t.history := by
    rw [split]
    simp [mem]
  -- It was asked for, and only what was granted is.
  by_contra ungranted
  have unsent := (h.accounted.deletions i count returned path).2 ungranted
  have answered : 0 < tally (Happening.answers path) t.history :=
    tally_pos_iff.mpr ⟨_, here, decide_eq_true rfl⟩
  have sent := h.answers_eq path
  omega

/-- **The first closing deletes all that was granted.** -/
theorem Reachable.deleted_of_granted (h : Reachable uri t)
    (split : t.history = before ++ .locked i :: (during ++ .cleaned i count :: after))
    (first : ∀ j, .locked j ∉ before) {path : StoragePath} (granted : Granted path t.history) :
    ∃ j storage answer, .deleteAnswered j storage path answer ∈ during := by
  -- The state in which the closing has just returned.
  have regroup : t.history = (before ++ .locked i :: during) ++ .cleaned i count :: after := by
    rw [split]
    simp
  obtain ⟨u, v, moves, -, past, taken, reached, -⟩ := h.moment regroup
  have history : v.history = before ++ .locked i :: (during ++ [.cleaned i count]) := by
    rw [taken.history_eq, past]
    simp
  have done : .cleaned i count ∈ v.history := by
    rw [history]
    simp
  have early := h.granted_before split granted
  have granted : Granted path v.history := by
    obtain ⟨j, mem⟩ := early
    exact ⟨j, by rw [history]; exact List.mem_append_left _ mem⟩
  have sent := (reached.accounted.deletions i count done path).1 granted
  have balance := reached.answers_eq path
  have settled : stock (Stage.underwayAt path) v = 0 :=
    reached.stock_eq_zero_of_spent done fun spent => Stage.underwayAt_eq_zero spent path
  have answered : 0 < tally (Happening.answers path) v.history := by omega
  obtain ⟨e, mem, answers⟩ := tally_pos_iff.mp answered
  -- Nothing had been deleted when the closing began.
  obtain ⟨b, c, moves, opened, began, -, -, -⟩ := h.moment split
  have none_ := opened.answers_eq_zero (fun j => began ▸ first j) path
  rw [began] at none_
  rw [history] at mem
  cases e with
  | deleteAnswered j storage p answer =>
    cases of_decide_eq_true answers
    rcases List.mem_append.mp mem with early | late
    · exact absurd (tally_eq_zero_iff.mp none_ _ early) (by simp [Happening.answers])
    · refine ⟨j, storage, answer, ?_⟩
      simpa using late
  | _ => cases answers

/-- A call that has had the locations for itself is deleting, or has returned. -/
theorem Story.stage_of_locked {sessionId : String} {j : Nat} {h : List Happening} {stage : Stage}
    (story : Story uri sessionId j h stage) (mem : .locked j ∈ h) :
    stage.excludes = true ∨ ∃ count, .cleaned j count ∈ h := by
  cases stage with
  | asking w | admitted w | closing =>
    cases story
    simp at mem
  | waiting p s | creating p s | created p s | probing p s =>
    obtain ⟨w, -, rfl⟩ := story
    simp [begun, tried] at mem
  | leaving p r =>
    obtain ⟨w, -, ending⟩ := story
    cases ending <;> simp [begun, tried] at mem
  | ensured p r =>
    obtain ⟨w, done, -, ending, rfl⟩ := story
    cases ending <;> simp [begun, tried] at mem
  | deleting left underway n => exact .inl rfl
  | cleaned n =>
    obtain ⟨sent, rfl, -⟩ := story
    exact .inr ⟨n, List.mem_append_right _ (List.mem_singleton_self _)⟩

/-- **A later closing deletes nothing.** -/
theorem Reachable.clearing_eq_none (h : Reachable uri t) {later : List Happening}
    (split : t.history = before ++ .locked i :: later) {j : Nat} (earlier : .locked j ∈ before)
    {e : Happening} (mem : e ∈ later) : e.clearing = none := by
  obtain ⟨u, v, moves, reached, past, taken, -, -⟩ := h.moment split
  have free : u.writers = 0 := by
    cases taken with
    | moved at_ shift =>
      cases shift with
      | locked _ free => exact free
  -- The earlier one has returned by then, and so nothing is deleted any more.
  obtain ⟨stage, at_, story, mine⟩ := reached.story_of_mem (past ▸ earlier)
  rcases story.stage_of_locked mine with excludes | ⟨count, cleaned⟩
  · cases (not_of_countP_eq_zero free at_).symm.trans excludes
  · obtain ⟨first, rest, cut⟩ := List.append_of_mem (past ▸ (mem_own_iff.mp cleaned).1)
    have regroup : t.history = first ++ .cleaned j count :: (rest ++ .locked i :: later) := by
      rw [split, cut, List.append_assoc]
      rfl
    exact (h.accounted.only_first _ _ _ _ regroup).1 e (by simp [mem])

/-- Where nothing is asked of storages, they are left as they are. -/
theorem served_of_quiet {σ : Type} (storages : Storages σ) (spans : List String) (scene : Scene σ)
    {h : List Happening} (quiet : ∀ e ∈ h, e.enters = false ∧ e.clearing = none) :
    served storages spans scene h = scene := by
  induction h generalizing scene with
  | nil => rfl
  | cons e h ih =>
    obtain ⟨⟨nothing_made, nothing_deleted⟩, rest⟩ := List.forall_mem_cons.mp quiet
    have still : e.leaves storages spans scene = scene := by
      cases e with
      | createAnswered | probeAnswered => cases nothing_made
      | deleteAnswered => cases nothing_deleted
      | _ => rfl
    show served storages spans (e.leaves storages spans scene) h = scene
    rw [still]
    exact ih scene rest

end LocationCalls

/-! ## Where aliases come from -/

namespace Removals

open LocationCalls (Granted)

variable {uri : String → String} {o : Removals} {moves : List Move}
  {placed : List Registrations.Move}

/-- A registration for workspace `w` was answered with an alias, when a schedule has led to `o`. -/
def Registered (moves : List Move) (o : Removals) (w : Workspace) (tableAlias : String) : Prop :=
  ∃ (k : Nat) (name token : String),
    (Registrations.orders (registrationMoves moves))[k]? = some (.register w name token) ∧
      o.registrations.errands[k]? = some (.registered name (.ok tableAlias))

/-- What the calls `placed` have brought about: an alias that was answered is made of the id of the
session and of a token, and some call was told that the location of the workspace is there. -/
structure Lodged (placed : List Registrations.Move) (o : Removals) : Prop where
  sessionId : o.registrations.tables.sessionId = o.sessionId
  made : ∀ (k : Nat) (name tableAlias : String),
    o.registrations.errands[k]? = some (.registered name (.ok tableAlias)) →
      ∃ token ∈ Registrations.tokens placed, tableAlias = o.registrations.tables.aliasOf token
  granted : ∀ (k : Nat) (name tableAlias : String),
    o.registrations.errands[k]? = some (.registered name (.ok tableAlias)) →
      ∀ w token, placed[k]? = some (.register w name token) →
        Granted (w.locationOf o.sessionId) o.passed

/-- A call that answered a path has granted the location of the workspace that it was for. -/
theorem granted_of_ensured {t : LocationCalls} (h : LocationCalls.Reachable uri t) {call : Nat}
    {w : Workspace} {path answered : StoragePath} (asked : .called call (.ensure w) ∈ t.history)
    (stage : t.stages[call]? = some (.ensured path (.ok answered))) :
    Granted (w.locationOf t.locations.sessionId) t.history := by
  obtain ⟨v, done, here, ending, eq⟩ := h.story stage
  have mine : .called call (.ensure w) ∈ LocationCalls.own call t.history :=
    LocationCalls.mem_own_iff.mpr ⟨asked, rfl⟩
  rw [eq] at mine
  obtain rfl : w = v := by
    rcases List.mem_append.mp mine with before | last
    · exact ending.workspace_eq before
    · cases List.mem_singleton.mp last
  have answer : answered = path := by
    cases ending <;> rfl
  subst answer
  rw [here]
  exact ⟨call, h.returned_of_ensured stage⟩

/-- A registration that came with a token is among those with tokens. -/
theorem mem_tokens {k : Nat} {w : Workspace} {name token : String}
    (order : placed[k]? = some (.register w name token)) : token ∈ Registrations.tokens placed :=
  List.mem_filterMap.mpr ⟨_, List.mem_of_getElem? order, rfl⟩

/-- A step of the other calls keeps to `Lodged`. -/
theorem Lodged.registrations (lodged : Lodged placed o)
    (served : Registrations.Served placed o.registrations)
    (h : LocationCalls.Reachable uri o.registrations.calls) {m : Registrations.Move}
    {d : Registrations}
    (one : o.registrations.step uri m = some d) :
    Lodged (placed ++ Registrations.orders [m]) { o with registrations := d } := by
  have taken := Registrations.Step.of_step one
  obtain ⟨same, later, grown⟩ := (Step.registrations one).passed_eq
  have more {token : String} (mem : token ∈ Registrations.tokens placed) :
      token ∈ Registrations.tokens (placed ++ Registrations.orders [m]) := by
    rw [Registrations.tokens, List.filterMap_append]
    exact List.mem_append_left _ mem
  constructor
  · rw [same, ← lodged.sessionId]
    rcases taken.tables_cases with eq | ⟨k, call, name, token, -, -, eq⟩
    · exact congrArg Tables.sessionId eq
    · exact (congrArg Tables.sessionId eq).trans Tables.sessionId_register
  · intro k name tableAlias at_
    simp only [taken.aliasOf_eq]
    rcases taken.granted_cases at_ with old | ⟨call, token, path, answered, errand, stage, mine, -⟩
    · obtain ⟨token, mem, eq⟩ := lodged.made k name tableAlias old
      exact ⟨token, more mem, eq⟩
    · subst mine
      cases known : o.registrations.tables.resolve? name with
      | some found =>
        -- Somebody was faster.
        obtain ⟨j, w, other, token', order, -, -, eq⟩ := served.giver _ found known
        rw [Tables.register_of_known known]
        exact ⟨token', more (mem_tokens order), eq⟩
      | none =>
        obtain ⟨w, order, -⟩ := served.pending k call name token errand
        exact ⟨token, more (mem_tokens order), Tables.register_of_unknown known⟩
  · intro k name tableAlias at_ w token order
    -- The call was made before.
    have earlier {errand : Errand} (at_ : o.registrations.errands[k]? = some errand) :
        placed[k]? = some (.register w name token) := by
      have bound := (List.getElem?_eq_some_iff.mp at_).1
      rw [served.length_eq] at bound
      rwa [List.getElem?_append_left bound] at order
    have kept (granted : Granted (w.locationOf o.sessionId) o.passed) :
        Granted (w.locationOf ({ o with registrations := d } : Removals).sessionId)
          ({ o with registrations := d } : Removals).passed := by
      obtain ⟨j, mem⟩ := granted
      rw [same, grown]
      exact ⟨j, List.mem_append_left _ mem⟩
    rcases taken.granted_cases at_ with old | ⟨call, token', path, answered, errand, stage, -⟩
    · exact kept (lodged.granted k name tableAlias old w token (earlier old))
    · obtain ⟨w', order', asked⟩ := served.pending k call name token' errand
      cases (earlier errand).symm.trans order'
      exact kept (granted_of_ensured h asked stage)

/-- **Where an alias comes from, and that the location is there.** -/
theorem Reached.lodged (h : Reached uri moves o) :
    Lodged (Registrations.orders (registrationMoves moves)) o := by
  refine h.induction (motive := fun placed o => Lodged (Registrations.orders placed) o) ?_ ?_
  · intro r id credentials
    exact ⟨rfl, fun k name tableAlias at_ => by simp [ofSession, Registrations.ofSession] at at_,
      fun k name tableAlias at_ => by simp [ofSession, Registrations.ofSession] at at_⟩
  · intro moves m o p reached taken lodged
    rw [Registrations.orders_append]
    cases taken with
    | registrations one => exact lodged.registrations reached.served reached.calls one
    | called w name =>
      rw [show Registrations.orders (Option.toList none) = [] from rfl, List.append_nil]
      exact ⟨lodged.sessionId, lodged.made, lodged.granted⟩
    | moved at_ shift =>
      rw [show Registrations.orders (Option.toList none) = [] from rfl, List.append_nil]
      cases shift <;> exact ⟨lodged.sessionId, lodged.made, lodged.granted⟩

/-! ## The promise -/

/-- What the closing of a session has made of the disk `d`: `d'`. -/
structure Emptied (moves : List Move) (o : Removals) (d d' : Disk) : Prop where
  /-- Nothing is found along the path of a location, nor below it. -/
  gone : ∀ path, Granted path o.passed → ∀ more entry, d'.stat (path.segments ++ more) ≠ .ok entry
  /-- If the path does not go up, nothing stands at the place of the location, nor below it. -/
  vacated : d.IsTree → ∀ path, Granted path o.passed → ".." ∉ path.segments →
    ∀ place, Disk.withoutDots path.segments <+: place → d'.find? place = none
  /-- No table is found. -/
  tables : ∀ w tableAlias, Registered moves o w tableAlias →
    ∀ entry, d'.stat (w.root.join tableAlias).segments ≠ .ok entry
  /-- What stood outside of the locations stands there as before, and nothing new. -/
  kept : ∀ place, (∀ path top, Granted path o.passed → d.locate path.segments = .ok top →
    ¬ top <+: place) → d'.find? place = d.find? place

/-- What holds of the tables of a session when a schedule has led to `o`. -/
structure Housed (moves : List Move) (o : Removals) : Prop where
  /-- In every workspace, an alias leads to a child of the location of the session … -/
  child : ∀ w tableAlias, Registered moves o w tableAlias → ∀ v : Workspace,
    (v.root.join tableAlias).parent? = some (v.locationOf o.sessionId)
  /-- … which some call was told is there, in the workspace of the registration. -/
  ensured : ∀ w tableAlias, Registered moves o w tableAlias →
    Granted (w.locationOf o.sessionId) o.passed
  /-- Different aliases lead to different children. -/
  distinct : ∀ w v a b, Registered moves o w a → Registered moves o v b → a ≠ b →
    ∀ u : Workspace, u.root.join a ≠ u.root.join b
  /-- When the first closing has had all its deletions answered by handles on one disk, and none has
  failed, the locations are gone, and nothing else. -/
  emptied : ∀ before during after i count,
    o.passed = before ++ .locked i :: (during ++ .cleaned i count :: after) →
      (∀ j, .locked j ∉ before) → ∀ spans scene,
        LocationCalls.Answered Handles.storages spans scene during →
          LocationCalls.NeverFails during →
          Emptied moves o scene.outside.disk
            (LocationCalls.served Handles.storages spans scene during).outside.disk
  /-- A later closing leaves everything as it is. -/
  settled : ∀ before during after i count,
    o.passed = before ++ .locked i :: (during ++ .cleaned i count :: after) →
      (∃ j, .locked j ∈ before) → ∀ spans (scene : Scene Handles),
        LocationCalls.served Handles.storages spans scene during = scene

/-- **Tables live inside the locations that are deleted**, when ids and tokens are names. -/
theorem Reached.housed (h : Reached uri moves o) (isName : IsName o.sessionId)
    (tokens : ∀ token ∈ Registrations.tokens (registrationMoves moves), IsName token) :
    Housed moves o := by
  have lodged := h.lodged
  -- An alias is made of two names.
  have made {w : Workspace} {tableAlias : String} (registered : Registered moves o w tableAlias) :
      ∃ token, IsName token ∧ tableAlias = o.sessionId ++ "/" ++ token := by
    obtain ⟨k, name, token, -, errand⟩ := registered
    obtain ⟨token, mem, rfl⟩ := lodged.made k name tableAlias errand
    rw [Registrations.tokens_orders] at mem
    exact ⟨token, tokens token mem, by rw [Tables.aliasOf, lodged.sessionId]⟩
  have ensured {w : Workspace} {tableAlias : String}
      (registered : Registered moves o w tableAlias) :
      Granted (w.locationOf o.sessionId) o.passed := by
    obtain ⟨k, name, token, order, errand⟩ := registered
    exact lodged.granted k name tableAlias errand w token order
  refine ⟨fun w tableAlias registered v => ?_, fun w tableAlias => ensured, ?_, ?_, ?_⟩
  · obtain ⟨token, tokenIsName, rfl⟩ := made registered
    exact parent?_join_alias isName tokenIsName
  · intro w v a b first second differ u same
    obtain ⟨token, tokenIsName, rfl⟩ := made first
    obtain ⟨token', tokenIsName', rfl⟩ := made second
    have names := congrArg StoragePath.fileName? same
    rw [fileName?_join_alias isName tokenIsName, fileName?_join_alias isName tokenIsName'] at names
    exact differ (by rw [Option.some.inj names])
  · intro before during after i count split first spans scene answered clean
    have nothing_made : ∀ e ∈ during, e.enters = false := fun e mem =>
      (h.calls.closing split).nothing_more.1 e (List.mem_append_left _ mem)
    have cleared := Handles.cleared_of_answered answered nothing_made clean
    have gone (path : StoragePath) (granted : Granted path o.passed) (more : List String)
        (entry : Disk.Entry) :
        (LocationCalls.served Handles.storages spans scene during).outside.disk.stat
          (path.segments ++ more) ≠ .ok entry := by
      obtain ⟨j, storage, answer, mem⟩ := h.calls.deleted_of_granted split first granted
      exact cleared.gone j storage path answer mem more entry
    refine ⟨gone, ?_, ?_, ?_⟩
    · intro tree path granted plain place below
      obtain ⟨j, storage, answer, mem⟩ := h.calls.deleted_of_granted split first granted
      exact cleared.vacated tree j storage path answer mem plain place below
    · intro w tableAlias registered entry
      obtain ⟨token, tokenIsName, rfl⟩ := made registered
      have inside : (w.root.join (o.sessionId ++ "/" ++ token)).segments =
          (w.locationOf o.sessionId).segments ++ [token] := by
        rw [segments_locationOf isName, StoragePath.segments_join,
          StoragePath.pieces_pair isName tokenIsName, List.append_assoc]
        rfl
      rw [inside]
      exact gone _ (ensured registered) [token] entry
    · intro place outside
      refine cleared.kept place fun j storage path answer top mem => ?_
      exact outside path top (h.calls.granted_of_deleted split mem)
  · rintro before during after i count split ⟨j, earlier⟩ spans scene
    refine LocationCalls.served_of_quiet _ spans scene fun e mem => ⟨?_, ?_⟩
    · exact (h.calls.closing split).nothing_more.1 e (List.mem_append_left _ mem)
    · exact h.calls.clearing_eq_none split earlier (List.mem_append_left _ mem)

/-! ### Trying things out -/

/-- Whether a closing has the locations for itself. -/
def locks : LocationCalls.Happening → Bool
  | .locked _ => true
  | _ => false

/-- A workspace on the local disk, with a handle of its own. -/
def onDisk (handle : String) (names : List String) : Workspace :=
  ⟨handle, "dfs.tmp", handle, ⟨"file", "", names⟩⟩

/-- A table is registered in two workspaces at the same time, and the session is closed. -/
def movedIn : List Move :=
  [.registrations (.register (onDisk "h" ["data"]) "t" "a"),
    .registrations (.register (onDisk "g" ["new", "y"]) "T" "b")] ++
  [.proceed 0, .proceed 1, .proceed 0, .proceed 1, .proceed 0, .proceed 1, .create 1 (.ok ()),
    .create 0 (.ok ()), .proceed 0, .proceed 1, .probe 0 (.ok true), .probe 1 (.ok true),
    .proceed 1, .proceed 0].map (.registrations <| .locations ·) ++
  [.registrations (.enlist 0), .registrations (.enlist 1), .registrations .close] ++
  [.proceed 2, .send 2 0, .send 2 0, .delete 2 1 (.ok true), .delete 2 0 (.ok true),
    .proceed 2].map (.registrations <| .locations ·)

/-- A disk on which a planner has written the table in one of the locations.  Outside of them there is
a file. -/
def inhabited : Disk :=
  Disk.empty.addAll [(["data"], .folder 0o755), (["data", "old"], .file [1]),
    (["data", "s"], .folder 0o700), (["data", "s", "a"], .folder 0o755),
    (["data", "s", "a", "rows"], .file [2]), (["new"], .folder 0o700), (["new", "y"], .folder 0o700),
    (["new", "y", "s"], .folder 0o700)]

/-- The session when it was closed. -/
def movedOut : Removals := (fresh.run id movedIn).getD fresh

/-- The deletions of the closing, as they are sent and answered. -/
def movingOut : List LocationCalls.Happening :=
  [.deleteSent 2 "h" ⟨"file", "", ["data", "s"]⟩ true,
    .deleteSent 2 "g" ⟨"file", "", ["new", "y", "s"]⟩ true,
    .deleteAnswered 2 "g" ⟨"file", "", ["new", "y", "s"]⟩ (.ok true),
    .deleteAnswered 2 "h" ⟨"file", "", ["data", "s"]⟩ (.ok true)]

/-- The table is gone with its location, and the file stays. -/
theorem housed_movedIn : Reached id movedIn movedOut ∧ Housed movedIn movedOut ∧
    Registered movedIn movedOut (onDisk "h" ["data"]) "s/a" ∧
      Registered movedIn movedOut (onDisk "g" ["new", "y"]) "s/a" ∧
        movedOut.passed = movedOut.passed.take 17 ++ .locked 2 :: (movingOut ++ [.cleaned 2 2]) ∧
          inhabited.IsTree ∧ inhabited.stat ["data", "s", "a"] = .ok (.folder 0o755) ∧
            ∃ left, Emptied movedIn movedOut inhabited left ∧
              left.find? ["data", "old"] = some (.file [1]) := by
  have reached : Reached id movedIn movedOut := .of_trial rfl
  have housed := reached.housed (show IsName "s" by decide) (by decide)
  have split : movedOut.passed =
      movedOut.passed.take 17 ++ .locked 2 :: (movingOut ++ [.cleaned 2 2]) := rfl
  have first : ∀ j, .locked j ∉ movedOut.passed.take 17 := by
    intro j
    exact LocationCalls.not_mem_of_tally locks rfl rfl
  have clean : LocationCalls.NeverFails movingOut := fun i storage path e =>
    LocationCalls.not_mem_of_tally LocationCalls.Happening.keeps rfl rfl
  have emptied := housed.emptied _ _ _ _ _ split first [] ⟨⟨inhabited, fun _ => []⟩, []⟩
    ⟨trivial, trivial, rfl, rfl, trivial⟩ clean
  exact ⟨reached, housed, ⟨0, "t", "a", rfl, rfl⟩, ⟨1, "T", "b", rfl, rfl⟩, split,
    Disk.isTree_empty.addAll _, rfl, _, emptied, rfl⟩

end Removals

end QuerySession
