import QuerySession.Proofs.Session
import QuerySession.Proofs.Storage.Removal
import QuerySession.Proofs.LocationCalls.Alone
import QuerySession.Session.Service

/-!
# Sessions leave the disk as it was

Sessions whose workspaces all have one local storage make their locations on it, and whoever plans
their queries puts files and folders into these locations.  When the storage is given up nothing of
this is left, whether the sessions were closed or not.

## Main Definitions

* `Disk.Vacant` — a location can be made at a path: its names are ordinary, and nothing is there
* `LocalStorage.Atop` — what is on the disk is what was on it in the beginning, and what is scheduled
* `Service.Fits`, `Service.Modest` — a call, and a run of calls, that use vacant locations only

## Main Results

* `LocalStorage.Atop.created`, `LocalStorage.Atop.deleted`, `LocalStorage.Atop.add` — what sessions and
  planners do keeps `Atop`
* `Service.restores` — after a run of calls the disk is left as it was

## Implementation Notes

A location may lie below another one, also one of another session, which can be deleted meanwhile.
Then the path that covers it is off the schedule, and so is everything that was below it: in `Atop`
the schedule covers whatever is new, and never what is old.
-/

namespace QuerySession

open Disk

/-- A path of ordinary names at which nothing stands. -/
structure Disk.Vacant (d : Disk) (names : List String) : Prop where
  ordinary : Ordinary names
  free : d.find? names = none

theorem Disk.Vacant.ne_nil {d : Disk} {names : List String} (vacant : d.Vacant names) :
    names ≠ [] := by
  rintro rfl
  cases vacant.free

namespace LocalStorage

variable {d : Disk} {s s' : LocalStorage} {p : StoragePath} {strategy : FolderStrategy}
  {g names place : List String}

/-! ## The disk and the schedule -/

/-- Everything is on the disk that was on it in the beginning, as it was; whatever else is there is
covered by the schedule; and the schedule covers nothing old. -/
structure Atop (d : Disk) (s : LocalStorage) : Prop where
  tree : s.disk.IsTree
  kept : ∀ place entry, d.find? place = some entry → s.disk.find? place = some entry
  covered : ∀ place, d.find? place = none → (s.disk.find? place).isSome = true →
    ∃ g ∈ s.schedule, Covers g place
  scheduled : ∀ g ∈ s.schedule, Sweepable g ∧ d.find? (withoutDots g) = none ∧
    s.disk.hasFolder (withoutDots g) = true

namespace Atop

theorem on (tree : d.IsTree) : Atop d (.on d) where
  tree := tree
  kept _ _ found := found
  covered place nothing there := by
    rw [show (LocalStorage.on d).disk.find? place = none from nothing] at there
    cases there
  scheduled _ mem := absurd mem List.not_mem_nil

/-- A creation whose names are ordinary. -/
theorem created (atop : Atop d s) (ordinary : Ordinary p.segments)
    (temporary : strategy.deleteOnExit = true) : Atop d (s.created p strategy).2 := by
  cases outcome : s.created p strategy with
  | mk result s' =>
    cases result with
    | error e =>
      have failed : (s.created p strategy).1 = .error e := by rw [outcome]
      have same := created_error atop.tree ordinary failed
      rw [outcome] at same
      exact same ▸ atop
    | ok _ =>
      have tree : s'.disk.IsTree := by
        have left := (created_left atop.tree p strategy).1
        rwa [outcome] at left
      cases created_ok atop.tree ordinary.plain outcome with
      | found disk schedule =>
        refine ⟨tree, fun place entry old => ?_, fun place nothing there => ?_, fun g mem => ?_⟩
        · rw [disk]
          exact atop.kept place entry old
        · rw [schedule]
          exact atop.covered place nothing (disk place ▸ there)
        · rw [hasFolder, disk]
          exact atop.scheduled g (schedule ▸ mem)
      | made g outermost grown stands schedule =>
        rw [if_pos temporary] at schedule
        refine ⟨tree, fun place entry old => grown.kept place entry (atop.kept place entry old),
          fun place nothing there => ?_, fun h mem => ?_⟩
        · rw [schedule]
          cases before : s.disk.find? place with
          | some entry =>
            obtain ⟨h, mem, covers⟩ := atop.covered place nothing (by rw [before]; rfl)
            exact ⟨h, mem_enlist_of_mem mem, covers⟩
          | none => exact exists_mem_enlist (grown.fresh place before there).2.1
        · rcases mem_enlist (schedule ▸ mem) with old | rfl
          · obtain ⟨sweepable, free, folder⟩ := atop.scheduled h old
            exact ⟨sweepable, free, grown.hasFolder folder⟩
          · refine ⟨outermost.sweepable, ?_, stands⟩
            by_contra old
            obtain ⟨entry, found⟩ := Option.ne_none_iff_exists'.mp old
            have still := atop.kept _ entry found
            rw [outermost.free] at still
            cases still

/-- A vacant location is cut off, and what is scheduled at or below it is released. -/
theorem cut (atop : Atop d s) (start : d.IsTree) (vacant : d.Vacant names) :
    Atop d ⟨s.disk.cut names, release s.schedule names⟩ where
  tree := atop.tree.cut names
  kept place entry old := by
    rw [find?_cut, if_neg]
    · exact atop.kept place entry old
    · rintro ⟨-, below⟩
      rw [start.find?_eq_none below vacant.free] at old
      cases old
  covered place nothing there := by
    rw [find?_cut] at there
    split at there
    · cases there
    · rename_i kept
      obtain ⟨g, mem, covers⟩ := atop.covered place nothing there
      refine ⟨g, List.mem_filter.mpr ⟨mem, ?_⟩, covers⟩
      rw [Bool.not_eq_true', isAtOrBelow, vacant.ordinary.withoutDots_eq, Bool.eq_false_iff]
      intro below
      have place_ne : place ≠ [] := by
        rintro rfl
        cases nothing
      exact kept ⟨place_ne, (List.isPrefixOf_iff_prefix.mp below).trans covers⟩
  scheduled g mem := by
    obtain ⟨old, apart⟩ := List.mem_filter.mp mem
    obtain ⟨sweepable, free, folder⟩ := atop.scheduled g old
    rw [Bool.not_eq_true', isAtOrBelow, vacant.ordinary.withoutDots_eq] at apart
    refine ⟨sweepable, free, ?_⟩
    rw [hasFolder, find?_cut, if_neg]
    · exact folder
    · rintro ⟨-, below⟩
      rw [List.isPrefixOf_iff_prefix.mpr below] at apart
      cases apart

/-- A vacant location is deleted with all that is in it. -/
theorem deleted (atop : Atop d s) (start : d.IsTree) (vacant : d.Vacant p.segments) :
    Atop d (s.deleted p true).2 := by
  by_cases mine : p.scheme = "file"
  · rw [deleted_of_file s mine]
    have deletion := deleteAt_deletion s.disk p.segments true
    by_cases released : ∃ g ∈ s.schedule, isAtOrBelow g p.segments = true
    · -- A folder that was made stands at or below the location, and so one stands at it.
      obtain ⟨g, mem, below⟩ := released
      obtain ⟨sweepable, free, folder⟩ := atop.scheduled g mem
      rw [isAtOrBelow, vacant.ordinary.withoutDots_eq, List.isPrefixOf_iff_prefix] at below
      have allowed := refusal?_of_above below (refusal?_withoutDots sweepable.allowed)
      have gone := deleteAt_of_hasFolder atop.tree vacant.ordinary allowed vacant.ne_nil
        (atop.tree.hasFolder_of_hasFolder below folder)
      rw [gone]
      exact atop.cut start vacant
    · rcases deletion.disk_eq vacant.ordinary vacant.ne_nil with same | gone
      · have nothing_released : release s.schedule p.segments = s.schedule :=
          List.filter_eq_self.mpr fun g mem => by
            rw [Bool.not_eq_true', Bool.eq_false_iff]
            exact fun below => released ⟨g, mem, below⟩
        rw [same, nothing_released]
        exact atop
      · rw [gone]
        exact atop.cut start vacant
  · obtain ⟨e, same⟩ := deleted_of_foreign s mine true
    rw [same]
    exact atop

/-- Somebody puts something below what is new. -/
theorem add (atop : Atop d s) (free : d.find? names = none)
    (there : (s.disk.find? names).isSome = true) (below : names <+: place) (entry : Entry) :
    Atop d (s.add place entry) := by
  have look (q : List String) := find?_add s.disk place q entry
  have still (q : List String) (old : Entry) (found : s.disk.find? q = some old) :
      (s.add place entry).disk.find? q = some old := by
    refine (look q).trans ?_
    rw [if_neg, found]
    rintro ⟨rfl, -, nothing⟩
    rw [nothing] at found
    cases found
  refine ⟨atop.tree.add place entry, fun q old found => still q old (atop.kept q old found),
    fun q nothing here => ?_, fun g mem => ?_⟩
  · have found := look q
    change (s.add place entry).disk.find? q = _ at found
    rw [found] at here
    split at here
    · rename_i added
      obtain ⟨g, mem, covers⟩ := atop.covered names free there
      exact ⟨g, mem, (covers.trans below).trans (added.1 ▸ List.prefix_rfl)⟩
    · exact atop.covered q nothing here
  · obtain ⟨sweepable, none_, folder⟩ := atop.scheduled g mem
    obtain ⟨mode, found⟩ := hasFolder_iff.mp folder
    exact ⟨sweepable, none_, hasFolder_of_find? (still _ _ found)⟩

/-- **When the scheduled folders are removed the disk is as it was.** -/
theorem find?_sweep (atop : Atop d s) (start : d.IsTree) {order : List (List String)}
    (drained : order.Perm s.schedule) (place : List String) :
    (sweep s.disk order).find? place = d.find? place := by
  have sweepable : ∀ g ∈ order, Sweepable g := fun g mem =>
    (atop.scheduled g (drained.mem_iff.mp mem)).1
  have swept := LocalStorage.find?_sweep atop.tree sweepable place
  by_cases covered : ∃ g ∈ order, s.disk.hasFolder (withoutDots g) = true ∧ withoutDots g <+: place
  · obtain ⟨g, mem, -, covers⟩ := id covered
    have free := (atop.scheduled g (drained.mem_iff.mp mem)).2.1
    rw [swept.1 covered, start.find?_eq_none covers free]
  · rw [swept.2 covered]
    cases old : d.find? place with
    | some entry => exact atop.kept place entry old
    | none =>
      by_contra there
      obtain ⟨g, mem, covers⟩ := atop.covered place old (Option.isSome_iff_ne_none.mpr there)
      exact covered ⟨g, drained.mem_iff.mpr mem, (atop.scheduled g mem).2.2, covers⟩

end Atop

end LocalStorage

/-! ## The locations of one session -/

namespace Locations

open LocalStorage

variable {d : Disk} {l : Locations} {w : Workspace}

/-- Nothing happens to the storage when it is asked what is there. -/
theorem probe_outside (p : StoragePath) (spans : List String) (scene : Scene LocalStorage) :
    ((probe p).outcome spans scene).2 = scene := by
  unfold probe
  rw [Attempt.bind_eq, Attempt.ofExcept_eq]
  cases namesOf p <;> rfl

/-- A location is made on the disk, whatever comes of looking for it. -/
theorem provision_outside (storage : String) (path : StoragePath) (spans : List String)
    (scene : Scene LocalStorage) :
    ((provision everywhere storage path).outcome spans scene).2.outside =
      (scene.outside.created path .temporary).2 := by
  obtain ⟨events, made⟩ := create_outcome path .temporary spans scene
  have made : (everywhere.create storage path .temporary).outcome spans scene = _ := made
  unfold provision
  simp only [Attempt.bind_eq, blaming_eq]
  rw [made]
  cases (scene.outside.created path .temporary).1 with
  | error e => rfl
  | ok _ =>
    dsimp only
    have looked := probe_outside path spans ⟨(scene.outside.created path .temporary).2, events⟩
    change ((everywhere.probe storage path).outcome spans _).2 = _ at looked
    cases seen : (everywhere.probe storage path).outcome spans
        ⟨(scene.outside.created path .temporary).2, events⟩ with
    | mk result after =>
      rw [seen] at looked
      change after = _ at looked
      subst looked
      cases result with
      | error e => rfl
      | ok there => cases there <;> rfl

/-- When a session asks for its location in a workspace, it may be made, and nothing else happens. -/
theorem ensure_outside (l : Locations) (w : Workspace) (spans : List String)
    (scene : Scene LocalStorage) :
    ((l.ensure everywhere w) spans scene).2.outside = scene.outside ∨
      ((l.ensure everywhere w) spans scene).2.outside =
        (scene.outside.created (w.locationOf l.sessionId) .temporary).2 := by
  unfold ensure
  split
  · exact .inl rfl
  · dsimp only
    split
    · exact .inl rfl
    · right
      rw [Action.bind_eq, Action.within_eq]
      have made := provision_outside (l.enter (w.locationOf l.sessionId) w.storage).1.storage
        (w.locationOf l.sessionId) (l.enter (w.locationOf l.sessionId) w.storage).2.spans scene
      cases attempt : (provision everywhere (l.enter (w.locationOf l.sessionId) w.storage).1.storage
          (w.locationOf l.sessionId)).outcome
            (l.enter (w.locationOf l.sessionId) w.storage).2.spans scene with
      | mk result after =>
        rw [attempt] at made
        cases result <;> exact made

/-- What is known of the locations when one was asked for: no other came to be known. -/
theorem ensure_left {σ : Type} (storages : Storages σ) (l : Locations) (w : Workspace)
    (spans : List String) (scene : Scene σ) :
    ((l.ensure storages w) spans scene).1.2.sessionId = l.sessionId ∧
      ∀ path, (((l.ensure storages w) spans scene).1.2.known.find? path).isSome = true →
        (l.known.find? path).isSome = true ∨ path = w.locationOf l.sessionId := by
  have entered (path : StoragePath) : ((l.enter (w.locationOf l.sessionId) w.storage).2.known.find?
      path).isSome = true → (l.known.find? path).isSome = true ∨ path = w.locationOf l.sessionId := by
    rw [find?_enter]
    split
    · rename_i same
      exact fun _ => .inr same.symm
    · exact .inl
  rw [ensure_eq]
  split
  · exact ⟨rfl, fun _ => .inl⟩
  · dsimp only
    split
    · exact ⟨sessionId_enter, entered⟩
    · split
      · refine ⟨sessionId_enter, fun path known => ?_⟩
        rw [find?_settle] at known
        split at known
        · rename_i same
          exact .inr same.symm
        · exact entered path known
      · exact ⟨sessionId_enter, entered⟩

/-- A location is deleted with all that is in it. -/
theorem deleteOne_outside (path : StoragePath) (storage : String) (spans : List String)
    (scene : Scene LocalStorage) : ((deleteOne everywhere path storage) spans scene).2.outside =
      (scene.outside.deleted path true).2 := by
  unfold deleteOne
  have gone : (everywhere.delete storage path true).outcome spans scene = _ :=
    delete_outcome path true spans scene
  rw [Action.bind_eq, gone]
  cases (scene.outside.deleted path true).1 <;> rfl

/-- All locations are deleted when a session is closed. -/
theorem deleteAll_atop (start : d.IsTree) {ready : List (StoragePath × String)}
    (vacant : ∀ e ∈ ready, d.Vacant e.1.segments) (spans : List String)
    {scene : Scene LocalStorage} (atop : Atop d scene.outside) :
    Atop d ((deleteAll everywhere ready) spans scene).2.outside := by
  induction ready generalizing scene with
  | nil => exact atop
  | cons e ready ih =>
    obtain ⟨path, storage⟩ := e
    obtain ⟨first, rest⟩ := List.forall_mem_cons.mp vacant
    have one : Atop d ((deleteOne everywhere path storage) spans scene).2.outside := by
      rw [deleteOne_outside]
      exact atop.deleted start first
    exact ih rest one

end Locations

/-! ## All sessions -/

namespace Service

open LocalStorage

variable {d : Disk} {v : Service LocalStorage} {workspaces : Workspaces LocalStorage}
  {spans : List String} {calls : List (Call LocalStorage)}

/-- A call that fits: sessions are built, ask for vacant locations and are closed; and in between
somebody puts something below a location that is there.  Calls that ask the workspaces do not fit,
since nothing is known of what workspaces do to the disk. -/
def Fits (d : Disk) (v : Service LocalStorage) : Call LocalStorage → Prop
  | .welcome .. | .resolve .. | .close _ => True
  | .register k w _ _ => ∀ s, v.sessions[k]? = some s → d.Vacant (w.locationOf s.id).segments
  | .outside change => ∃ s ∈ v.sessions, ∃ (w : Workspace) (place : List String) (entry : Disk.Entry),
      d.Vacant (w.locationOf s.id).segments ∧
        (v.scene.outside.disk.find? (w.locationOf s.id).segments).isSome = true ∧
          (w.locationOf s.id).segments <+: place ∧ ∀ t, change t = t.add place entry
  | .remove .. | .check .. => False

/-- All calls of a run fit, each at its time. -/
def Modest (workspaces : Workspaces LocalStorage) (spans : List String) (d : Disk)
    (v : Service LocalStorage) : List (Call LocalStorage) → Prop
  | [] => True
  | c :: calls => v.Fits d c ∧ Modest workspaces spans d (v.serve everywhere workspaces spans c) calls

/-- The disk is as it was but for what is covered, and all locations that sessions know are vacant. -/
structure Guarded (d : Disk) (v : Service LocalStorage) : Prop where
  atop : Atop d v.scene.outside
  vacant : ∀ s ∈ v.sessions, s.locations.sessionId = s.id ∧
    ∀ path, (s.locations.known.find? path).isSome = true → d.Vacant path.segments

/-- A call on a session, by what it leaves of the storage and of the session. -/
theorem Guarded.on (guarded : Guarded d v) {k : Nat}
    {call : Session → Action LocalStorage (Told × Session)}
    (each : ∀ s, v.sessions[k]? = some s → Atop d ((call s) spans v.scene).2.outside ∧
      ((call s) spans v.scene).1.2.locations.sessionId = ((call s) spans v.scene).1.2.id ∧
        ∀ path, (((call s) spans v.scene).1.2.locations.known.find? path).isSome = true →
          d.Vacant path.segments) : Guarded d (v.on spans k call) := by
  unfold Service.on
  split
  · exact guarded
  · rename_i s at_
    obtain ⟨atop, named⟩ := each s at_
    refine ⟨atop, fun other mem => ?_⟩
    rcases List.mem_or_eq_of_mem_set mem with old | rfl
    · exact guarded.vacant other old
    · exact named

/-- A session that is built has no locations yet. -/
theorem Guarded.welcome (guarded : Guarded d v) (r : SessionRequest) (id : String) :
    Guarded d (v.serve everywhere workspaces spans (.welcome r id)) := by
  cases given : r.credentials with
  | none =>
    have refused : ∃ e, (Session.build r id).outcome spans v.scene = (.error e, v.scene) := by
      rw [Session.build, given]
      exact ⟨_, rfl⟩
    obtain ⟨e, refused⟩ := refused
    rw [Service.serve, refused]
    exact guarded
  | some credentials =>
    obtain ⟨events, reports⟩ := Session.build_reports given id spans
    have built : (Session.build r id).outcome spans v.scene = _ := reports LocalStorage v.scene
    rw [Service.serve, built]
    refine ⟨guarded.atop, fun s mem => ?_⟩
    rcases List.mem_append.mp mem with old | new
    · exact guarded.vacant s old
    · rw [List.mem_singleton.mp new]
      exact ⟨rfl, fun path known => by cases known⟩

/-- A session that registers a table makes a vacant location, or uses one that is known. -/
theorem Guarded.register (guarded : Guarded d v) {k : Nat} {w : Workspace}
    (fits : ∀ s, v.sessions[k]? = some s → d.Vacant (w.locationOf s.id).segments)
    (name token : String) :
    Guarded d (v.serve everywhere workspaces spans (.register k w name token)) := by
  rw [Service.serve]
  refine guarded.on fun s at_ => ?_
  obtain ⟨named, vacant⟩ := guarded.vacant s (List.mem_of_getElem? at_)
  have free := fits s at_
  rw [← named] at free
  have atop : Atop d ((s.registerTable everywhere w name token) spans v.scene).2.outside := by
    rw [s.registerTable_outside]
    rcases s.locations.ensure_outside w spans v.scene with same | made
    · rw [same]
      exact guarded.atop
    · rw [made]
      exact guarded.atop.created free.ordinary rfl
  obtain ⟨session_same, known⟩ := s.locations.ensure_left everywhere w spans v.scene
  have left := s.registerTable_left everywhere w name token spans v.scene
  rw [Action.bind_eq]
  refine ⟨atop, ?_⟩
  show ((s.registerTable everywhere w name token) spans v.scene).1.2.locations.sessionId =
    ((s.registerTable everywhere w name token) spans v.scene).1.2.id ∧
      ∀ path, (((s.registerTable everywhere w name token) spans v.scene).1.2.locations.known.find?
        path).isSome = true → d.Vacant path.segments
  rw [left.1, left.2]
  refine ⟨session_same.trans named, fun path here => ?_⟩
  rcases known path here with old | rfl
  · exact vacant path old
  · exact free

/-- A session that is closed deletes its locations. -/
theorem Guarded.close (guarded : Guarded d v) (start : d.IsTree) (k : Nat) :
    Guarded d (v.serve everywhere workspaces spans (.close k)) := by
  rw [Service.serve]
  refine guarded.on fun s at_ => ?_
  obtain ⟨named, vacant⟩ := guarded.vacant s (List.mem_of_getElem? at_)
  refine ⟨?_, named, fun path known => by cases known⟩
  exact Locations.deleteAll_atop start (fun e mem => vacant e.1 (by
    rw [Locations.mem_drain_iff.mp mem]
    rfl)) _ guarded.atop

/-- What one call preserves. -/
theorem Guarded.serve (guarded : Guarded d v) (start : d.IsTree) {c : Call LocalStorage}
    (fits : v.Fits d c) : Guarded d (v.serve everywhere workspaces spans c) := by
  cases c with
  | welcome r id => exact guarded.welcome r id
  | register k w name token => exact guarded.register fits name token
  | remove | check => exact fits.elim
  | resolve k name =>
    rw [Service.serve]
    exact guarded.on fun s at_ => ⟨guarded.atop, guarded.vacant s (List.mem_of_getElem? at_)⟩
  | close k => exact guarded.close start k
  | outside change =>
    obtain ⟨s, mem, w, place, entry, vacant, there, below, eq⟩ := fits
    refine ⟨?_, guarded.vacant⟩
    show Atop d (change v.scene.outside)
    rw [eq]
    exact guarded.atop.add vacant.free there below entry

/-- What a run of calls preserves. -/
theorem Guarded.run (guarded : Guarded d v) (start : d.IsTree)
    (modest : Modest workspaces spans d v calls) :
    Guarded d (v.run everywhere workspaces spans calls) := by
  induction calls generalizing v with
  | nil => exact guarded
  | cons c calls ih => exact ih (guarded.serve start modest.1) modest.2

/-- **Sessions leave the disk as it was.**  Any number of sessions have their locations on one local
storage: they are built, register temporary tables in any workspaces and are closed, or not, while
files and folders are put into their locations.  No location has been on the disk before.  When the
storage is given up, the scheduled folders being removed in any order, at every place of the disk there
is what was there in the beginning. -/
theorem restores (start : d.IsTree) {events : List Event}
    (modest : Modest workspaces spans d (opened ⟨.on d, events⟩) calls)
    {order : List (List String)}
    (drained : order.Perm
      ((opened ⟨.on d, events⟩).run everywhere workspaces spans calls).scene.outside.schedule)
    (last : List String) (reported : List Event) (place : List String) :
    (giveUp last
      ⟨⟨((opened ⟨.on d, events⟩).run everywhere workspaces spans calls).scene.outside.disk, order⟩,
        reported⟩).2.outside.disk.find? place = d.find? place := by
  have opened_ : Guarded d (opened ⟨.on d, events⟩) :=
    ⟨.on start, fun s mem => absurd mem List.not_mem_nil⟩
  rw [giveUp_outside]
  exact (opened_.run start modest).atop.find?_sweep start drained place

/-- A folder that is there with something in it, and a file. -/
def furnished : Disk :=
  ((Disk.empty.add ["data"] (.folder 0o750)).add ["data", "old"] (.file [1])).add ["full"] (.file [])

/-- A workspace with a root on the local disk. -/
def rooted (names : List String) : Workspace := ⟨"w", "dfs.tmp", "local", ⟨"file", "", names⟩⟩

/-- One session has its location in a folder that is there.  Another one has its location below it, in
folders that are missing, and one more elsewhere; and where a file is in the way it has none.  There
are files in the locations, and the first session is closed. -/
def nested : List (Call LocalStorage) :=
  [.welcome ⟨some ⟨"u"⟩, [], false, false, none, []⟩ "s",
    .welcome ⟨some ⟨"u"⟩, [], false, false, none, []⟩ "r",
    .register 0 (rooted ["data"]) "t" "a",
    .register 1 (rooted ["data", "s", "x"]) "t" "b",
    .outside (·.add ["data", "s", "x", "r", "f"] (.file [2])),
    .register 1 (rooted ["new", "y"]) "u" "c", .register 1 (rooted ["full"]) "v" "d",
    .outside (·.add ["new", "y", "r", "g"] (.folder 0o700)), .close 0]

/-- Workspaces that have no tables. -/
def bare : Workspaces LocalStorage where
  kindOf := fun _ _ => pure none
  drop := fun _ _ => pure ()

/-- The folder of the first location goes with the session, the new folders go in the end, and what
was there stays. -/
theorem restores_nested : furnished.IsTree ∧
    Modest bare [] furnished (opened ⟨.on furnished, []⟩) nested ∧
      ∀ place, (giveUp [] ((opened ⟨.on furnished, []⟩).run everywhere bare [] nested).scene
        ).2.outside.disk.find? place = furnished.find? place := by
  have start : furnished.IsTree := ((isTree_empty.add _ _).add _ _).add _ _
  have first : furnished.Vacant ["data", "s"] := ⟨by decide, rfl⟩
  have below : furnished.Vacant ["data", "s", "x", "r"] := ⟨by decide, rfl⟩
  have elsewhere : furnished.Vacant ["new", "y", "r"] := ⟨by decide, rfl⟩
  have blocked : furnished.Vacant ["full", "r"] := ⟨by decide, rfl⟩
  have modest : Modest bare [] furnished (opened ⟨.on furnished, []⟩) nested := by
    refine ⟨trivial, trivial, ?_, ?_, ?_, ?_, ?_, ?_, trivial, trivial⟩
    · rintro _ ⟨⟩
      exact first
    · rintro _ ⟨⟩
      exact below
    · exact ⟨_, List.mem_of_getElem? (i := 0) rfl, rooted ["data"], _, _, first, rfl, by decide,
        fun _ => rfl⟩
    · rintro _ ⟨⟩
      exact elsewhere
    · rintro _ ⟨⟩
      exact blocked
    · exact ⟨_, List.mem_of_getElem? (i := 1) rfl, rooted ["new", "y"], _, _, elsewhere, rfl,
        by decide, fun _ => rfl⟩
  exact ⟨start, modest, restores start modest (.refl _) [] _⟩

end Service

end QuerySession
