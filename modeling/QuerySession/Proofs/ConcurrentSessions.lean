import QuerySession.Proofs.Leftovers
import QuerySession.Proofs.Removals.Step
import QuerySession.Proofs.Storage.Names
import QuerySession.Session.ConcurrentSessions

/-!
# Sessions keep to their own locations

Sessions share workspaces and storages, and a deletion takes all below a path away.  What keeps a
session from deleting what belongs to another is how its paths are made: each is the root of a
workspace that the session asked for, and one step further down by the id of the session.  Two such
paths can only be in line when one of the roots leads through something that is called as a session.

## Main Definitions

* `Removals.locations` — the locations that were asked for in a session
* `ConcurrentSessions.Proper` — sessions have names as ids, all different, and no root leads through
  one of them
* `ConcurrentSessions.Confined` — a storage call changes what is in line with its path, and nothing
  else
* `ConcurrentSessions.Apart` — sessions do not touch each other's locations

## Main Results

* `LocationCalls.Reachable.asked_of_place` — every storage call is about a location that was asked
  for
* `ConcurrentSessions.Reached.apart` — sessions are apart
-/

namespace QuerySession

/-! ## What storages are called for -/

namespace LocationCalls

variable {uri : String → String} {t : LocationCalls}

/-- The path that a storage call or its answer is about, and the storage. -/
def Happening.place? (e : Happening) : Option (StoragePath × String) :=
  e.provisions.or e.clearing

/-- The workspace in which a call asked for a location. -/
def Happening.wants? : Happening → Option Workspace
  | called _ (.ensure w) => some w
  | _ => none

/-- The workspaces in which calls asked for locations. -/
def asked (h : List Happening) : List Workspace := h.filterMap Happening.wants?

theorem mem_asked_of_called {i : Nat} {w : Workspace} {h : List Happening}
    (mem : .called i (.ensure w) ∈ h) : w ∈ asked h :=
  List.mem_filterMap.mpr ⟨_, mem, rfl⟩

theorem asked_append (h h' : List Happening) : asked (h ++ h') = asked h ++ asked h' :=
  List.filterMap_append

/-- Whoever names a location was asked for it. -/
theorem Reachable.asked_of_named (h : Reachable uri t) {i : Nat} {w : Workspace}
    (mem : .named i w ∈ t.history) : w ∈ asked t.history := by
  obtain ⟨before, after, split⟩ := List.append_of_mem mem
  obtain ⟨u, v, moves, reached, rfl, taken, -, -⟩ := h.moment split
  rw [split, asked_append]
  apply List.mem_append_left
  cases taken with
  | moved at_ shift =>
    cases shift with
    | named =>
      have story : own i u.history = _ := reached.story at_
      have mine : .called i (.ensure w) ∈ own i u.history := by simp [story]
      exact mem_asked_of_called (mem_own_iff.mp mine).1

/-- Somebody asked for every location that was named. -/
theorem Reachable.asked_of_namer (h : Reachable uri t) {path : StoragePath} {storage : String}
    (named : namer? t.locations.sessionId path t.history = some storage) :
    ∃ w ∈ asked t.history, w.locationOf t.locations.sessionId = path := by
  obtain ⟨e, mem, names⟩ := List.exists_of_findSome?_eq_some named
  cases e with
  | named i w =>
    refine ⟨w, h.asked_of_named mem, ?_⟩
    simp only [Happening.names] at names
    split at names
    · assumption
    · cases names
  | _ => cases names

/-- **Every storage call is about a location that was asked for.** -/
theorem Reachable.asked_of_place (h : Reachable uri t) {e : Happening} (mem : e ∈ t.history)
    {path : StoragePath} {storage : String} (place : e.place? = some (path, storage)) :
    ∃ w ∈ asked t.history, w.locationOf t.locations.sessionId = path := by
  rcases Option.or_eq_some_iff.mp place with provisions | ⟨-, clearing⟩
  · exact h.asked_of_namer (h.namer_of_provisions mem provisions)
  · exact h.asked_of_namer (h.namer_of_clears mem clearing)

/-- Every location that is known was asked for. -/
theorem Reachable.asked_of_known (h : Reachable uri t) {path : StoragePath} {location : Location}
    (known : t.locations.known.find? path = some location) :
    ∃ w ∈ asked t.history, w.locationOf t.locations.sessionId = path := by
  cases closed : t.locations.closed with
  | false =>
    have named : namer? t.locations.sessionId path t.history = some location.storage := by
      rw [← h.storage_eq closed path, known]
      rfl
    exact h.asked_of_namer named
  | true =>
    rw [h.gate.emptied closed] at known
    cases known

end LocationCalls

namespace Removals

/-- The workspaces in which a session was asked for a location. -/
def asked (o : Removals) : List Workspace := LocationCalls.asked o.passed

/-- The locations that were asked for in a session. -/
def locations (o : Removals) : List StoragePath := o.asked.map (·.locationOf o.sessionId)

end Removals

namespace ConcurrentSessions

open LocationCalls (Happening)

variable {ρ : Type} {uri : String → String} {keep : ρ → Happening → ρ} {f g : ConcurrentSessions ρ}
  {moves : List (Move ρ)}

/-! ## Sessions side by side -/

/-- The ids of the sessions. -/
def ids (f : ConcurrentSessions ρ) : List String := f.sessions.map Removals.sessionId

/-- The workspaces in which sessions were asked for locations. -/
def asked (f : ConcurrentSessions ρ) : List Workspace := f.sessions.flatMap Removals.asked

/-- Sessions have names as ids, all different, and no root of theirs leads through one of them. -/
structure Proper (f : ConcurrentSessions ρ) : Prop where
  named : ∀ id ∈ f.ids, IsName id
  distinct : f.ids.Nodup
  free : ∀ w ∈ f.asked, ∀ id ∈ f.ids, id ∉ w.root.segments

/-- A schedule leads from the first session on to `f`. -/
def Reached (uri : String → String) (keep : ρ → Happening → ρ) (moves : List (Move ρ))
    (f : ConcurrentSessions ρ) : Prop :=
  ∃ held, (⟨[], held⟩ : ConcurrentSessions ρ).run uri keep moves = some f

/-- What a step can do. -/
inductive Step (uri : String → String) (keep : ρ → Happening → ρ) (f : ConcurrentSessions ρ) :
    Move ρ → ConcurrentSessions ρ → Prop
  | welcome (r : SessionRequest) (id : String) (credentials : Credentials) :
      Step uri keep f (.welcome r id credentials)
        { f with sessions := f.sessions ++ [.ofSession (.ofRequest r id credentials)] }
  | session {k : Nat} {m : Removals.Move} {o o' : Removals} {later : List Happening}
      (at_ : f.sessions[k]? = some o) (one : o.step uri m = some o')
      (grown : o'.passed = o.passed ++ later) :
      Step uri keep f (.session k m) ⟨f.sessions.set k o', later.foldl keep f.held⟩
  | others (held : ρ) : Step uri keep f (.others held) { f with held }

/-- **What can come out of a step.** -/
theorem Step.of_step {m : Move ρ} (h : f.step uri keep m = some g) : Step uri keep f m g := by
  cases m with
  | welcome r id credentials =>
    cases h
    exact .welcome r id credentials
  | session k m =>
    obtain ⟨o, at_, rest⟩ := Option.bind_eq_some_iff.mp h
    obtain ⟨o', one, rfl⟩ := Option.map_eq_some_iff.mp rest
    obtain ⟨-, later, grown⟩ := (Removals.Step.of_step one).passed_eq
    have new : o'.passed.drop o.passed.length = later := by rw [grown, List.drop_left]
    rw [new]
    exact .session at_ one grown
  | others held =>
    cases h
    exact .others held

theorem Reached.append (h : Reached uri keep moves f) {stretch : List (Move ρ)}
    (later : f.run uri keep stretch = some g) : Reached uri keep (moves ++ stretch) g := by
  obtain ⟨held, reached⟩ := h
  exact ⟨held, Schedule.append reached later⟩

/-- The session that came as `k`th, after a step: as it was, or one step further. -/
theorem Step.session_before {m : Move ρ} (taken : Step uri keep f m g) {k : Nat} {p : Removals}
    (at_ : g.sessions[k]? = some p) :
    (∃ r id credentials, p = .ofSession (.ofRequest r id credentials)) ∨
      ∃ o, f.sessions[k]? = some o ∧ (p = o ∨ ∃ m, o.step uri m = some p) := by
  cases taken with
  | welcome r id credentials =>
    rw [List.getElem?_append] at at_
    split at at_
    · exact .inr ⟨p, at_, .inl rfl⟩
    · obtain ⟨-, rfl⟩ : _ ∧ Removals.ofSession _ = p := by simpa [List.getElem?_singleton] using at_
      exact .inl ⟨r, id, credentials, rfl⟩
  | @session j m o o' later stood one grown =>
    rw [List.getElem?_set] at at_
    split at at_
    · rename_i same
      subst same
      split at at_
      · cases at_
        exact .inr ⟨o, stood, .inr ⟨m, one⟩⟩
      · cases at_
    · exact .inr ⟨p, at_, .inl rfl⟩
  | others held => exact .inr ⟨p, at_, .inl rfl⟩

/-- **Every session runs as if it were alone.** -/
theorem Reached.session (h : Reached uri keep moves f) {k : Nat} {o : Removals}
    (at_ : f.sessions[k]? = some o) : ∃ own, Removals.Reached uri own o := by
  obtain ⟨held, reached⟩ := h
  refine Schedule.induction (motive := fun _ f =>
    ∀ {o}, f.sessions[k]? = some o → ∃ own, Removals.Reached uri own o) ?_ ?_ reached at_
  · intro o at_
    cases at_
  · intro moves m f g _ one ih o at_
    rcases (Step.of_step one).session_before at_ with ⟨r, id, credentials, rfl⟩ | ⟨p, stood, rest⟩
    · exact ⟨[], r, id, credentials, rfl⟩
    · obtain ⟨own, r, id, credentials, ran⟩ := ih stood
      rcases rest with rfl | ⟨m', next⟩
      · exact ⟨own, r, id, credentials, ran⟩
      · exact ⟨own ++ [m'], r, id, credentials, Schedule.concat_iff.mpr ⟨p, ran, next⟩⟩

/-- A step keeps the sessions that are there, in their order, and all that they were asked for. -/
theorem Step.grows {m : Move ρ} (taken : Step uri keep f m g) :
    f.ids <+: g.ids ∧ f.asked ⊆ g.asked := by
  cases taken with
  | welcome r id credentials =>
    constructor
    · simp [ids]
    · simp [asked]
  | @session k m o o' later at_ one grown =>
    obtain ⟨bound, here⟩ := List.getElem?_eq_some_iff.mp at_
    have more : o.asked ⊆ o'.asked := by
      rw [Removals.asked, Removals.asked, grown, LocationCalls.asked_append]
      exact List.subset_append_left _ _
    constructor
    · have inside : k < f.ids.length := by simpa [ids] using bound
      have same : o'.sessionId = f.ids[k] := by
        simp [ids, here, (Removals.Step.of_step one).passed_eq.1]
      have ids_eq : ids ⟨f.sessions.set k o', later.foldl keep f.held⟩ = f.ids := by
        rw [ids, List.map_set, same]
        exact List.set_getElem_self inside
      exact ids_eq ▸ List.prefix_rfl
    · intro w mem
      obtain ⟨p, among, mem⟩ := List.mem_flatMap.mp mem
      obtain ⟨j, at_⟩ := List.mem_iff_getElem?.mp among
      by_cases same : k = j
      · subst same
        cases (List.getElem?_eq_getElem bound ▸ at_ : some _ = some p).trans rfl
        refine List.mem_flatMap.mpr ⟨o', ?_, more (here ▸ mem)⟩
        exact List.mem_of_getElem? (i := k) (by simp [bound])
      · refine List.mem_flatMap.mpr ⟨p, ?_, mem⟩
        exact List.mem_of_getElem? (i := j) (by rw [List.getElem?_set_ne same, at_])
  | others held => exact ⟨List.prefix_rfl, List.Subset.refl _⟩

/-- What is proper in the end was proper before. -/
theorem Step.proper {m : Move ρ} (taken : Step uri keep f m g) (proper : Proper g) : Proper f where
  named id mem := proper.named id (taken.grows.1.subset mem)
  distinct := proper.distinct.sublist taken.grows.1.sublist
  free w mem id idMem :=
    proper.free w (taken.grows.2 mem) id (taken.grows.1.subset idMem)

/-! ## Apart from each other -/

/-- A storage call changes what is in line with its path, on its storage, and nothing else. -/
def Confined (keep : ρ → Happening → ρ) (there : ρ → String → StoragePath → Bool) : Prop :=
  ∀ held e storage path, (∀ p, e.place? = some (p, storage) → ¬ p.InLine path) →
    there (keep held e) storage path = there held storage path

/-- Whether a move leaves session `j` alone, and what its storages hold. -/
def Move.spares (j : Nat) : Move ρ → Bool
  | welcome .. => true
  | session k _ => k ≠ j
  | others _ => false

/-- Sessions do not touch each other's locations, when a schedule has led to `f`; `there` tells what
is there, by storage and path. -/
structure Apart (uri : String → String) (keep : ρ → Happening → ρ)
    (there : ρ → String → StoragePath → Bool) (moves : List (Move ρ)) (f : ConcurrentSessions ρ) :
    Prop where
  /-- Every path that a storage is called with ends in the id of the session … -/
  own : ∀ (k : Nat) (o : Removals), f.sessions[k]? = some o → ∀ e ∈ o.passed, ∀ path storage,
    e.place? = some (path, storage) → path.fileName? = some o.sessionId
  /-- … and is not in line with any location of another one. -/
  away : ∀ (j k : Nat) (o p : Removals), j ≠ k → f.sessions[j]? = some o →
    f.sessions[k]? = some p → ∀ e ∈ p.passed, ∀ path storage, e.place? = some (path, storage) →
      ∀ location ∈ o.locations, ¬ path.InLine location
  /-- A session keeps track of nothing but its locations. -/
  tracked : ∀ (k : Nat) (o : Removals), f.sessions[k]? = some o → ∀ path,
    (o.registrations.calls.locations.known.find? path).isSome → path ∈ o.locations
  /-- While the others go on, a session stays as it is, and its locations with all below them. -/
  undisturbed : ∀ before stretch g (j : Nat) (o : Removals), moves = before ++ stretch →
    Reached uri keep before g → g.run uri keep stretch = some f → (∀ m ∈ stretch, m.spares j = true) →
      g.sessions[j]? = some o → f.sessions[j]? = some o ∧ ∀ location ∈ o.locations,
        ∀ storage path, path.atOrBelow location = true →
          there f.held storage path = there g.held storage path

variable {there : ρ → String → StoragePath → Bool}

/-- Any number of storage calls change nothing out of line with them. -/
theorem Confined.fold (confined : Confined keep there) {later : List Happening} {storage : String}
    {path : StoragePath}
    (away : ∀ e ∈ later, ∀ p, e.place? = some (p, storage) → ¬ p.InLine path) (held : ρ) :
    there (later.foldl keep held) storage path = there held storage path := by
  induction later generalizing held with
  | nil => rfl
  | cons e later ih =>
    rw [List.foldl_cons, ih (fun e mem => away e (List.mem_cons_of_mem _ mem))]
    exact confined held e storage path (away e List.mem_cons_self)

/-- A session has one of the ids. -/
theorem sessionId_mem {k : Nat} {o : Removals} (at_ : f.sessions[k]? = some o) :
    o.sessionId ∈ f.ids := List.mem_map_of_mem (List.mem_of_getElem? at_)

/-- **Storages are called for the own locations only.** -/
theorem Reached.mem_locations (h : Reached uri keep moves f) {k : Nat} {o : Removals}
    (at_ : f.sessions[k]? = some o) {e : Happening} (mem : e ∈ o.passed) {path : StoragePath}
    {storage : String} (place : e.place? = some (path, storage)) : path ∈ o.locations := by
  obtain ⟨own, reached⟩ := h.session at_
  obtain ⟨w, asked, rfl⟩ := reached.calls.asked_of_place mem place
  exact List.mem_map.mpr ⟨w, asked, rfl⟩

/-- **Locations of two sessions are not in line.** -/
theorem Proper.not_inLine (proper : Proper f) {j k : Nat} {o p : Removals} (distinct : j ≠ k)
    (at_ : f.sessions[j]? = some o) (other : f.sessions[k]? = some p) {location path : StoragePath}
    (mine : location ∈ o.locations) (theirs : path ∈ p.locations) : ¬ path.InLine location := by
  obtain ⟨w, asked, rfl⟩ := List.mem_map.mp mine
  obtain ⟨v, theirAsked, rfl⟩ := List.mem_map.mp theirs
  have among {k : Nat} {o : Removals} (at_ : f.sessions[k]? = some o) {w : Workspace}
      (asked : w ∈ o.asked) : w ∈ f.asked :=
    List.mem_flatMap.mpr ⟨o, List.mem_of_getElem? at_, asked⟩
  have different : p.sessionId ≠ o.sessionId := by
    intro same
    have bound := (List.getElem?_eq_some_iff.mp at_).1
    refine distinct ((List.getElem?_inj (by simpa [ids] using bound) proper.distinct).mp ?_)
    simp [ids, at_, other, same]
  exact not_inLine_locationOf (proper.named _ (sessionId_mem other))
    (proper.named _ (sessionId_mem at_)) different
    (proper.free w (among at_ asked) _ (sessionId_mem other))
    (proper.free v (among other theirAsked) _ (sessionId_mem at_))

/-- A step of another session leaves a session alone, and its locations. -/
theorem Step.undisturbed {m : Move ρ} (taken : Step uri keep f m g) (proper : Proper g)
    (reached : Reached uri keep moves g) (confined : Confined keep there) {j : Nat} {o : Removals}
    (at_ : f.sessions[j]? = some o) (spares : m.spares j = true) :
    g.sessions[j]? = some o ∧ ∀ location ∈ o.locations, ∀ storage path,
      path.atOrBelow location = true →
        there g.held storage path = there f.held storage path := by
  cases taken with
  | welcome r id credentials =>
    have bound := (List.getElem?_eq_some_iff.mp at_).1
    exact ⟨by rw [List.getElem?_append_left bound, at_], fun _ _ _ _ _ => rfl⟩
  | @session k m p p' later stood one grown =>
    have other : k ≠ j := of_decide_eq_true spares
    have still : (f.sessions.set k p')[j]? = some o := by rw [List.getElem?_set_ne other, at_]
    have bound := (List.getElem?_eq_some_iff.mp stood).1
    have next : (f.sessions.set k p')[k]? = some p' := by simp [bound]
    refine ⟨still, fun location mine storage path below => confined.fold (fun e mem q place => ?_) _⟩
    -- What the other session has done it has done at its own locations.
    have theirs := reached.mem_locations next (grown ▸ List.mem_append_right _ mem) place
    exact fun line => proper.not_inLine other.symm still next mine theirs (line.of_below below)
  | others held => cases spares

/-- **While the others go on**, a session stays as it is, and its locations with all below them. -/
theorem Reached.undisturbed (h : Reached uri keep moves f) (confined : Confined keep there)
    {stretch : List (Move ρ)} (later : f.run uri keep stretch = some g) (proper : Proper g)
    {j : Nat} {o : Removals} (spares : ∀ m ∈ stretch, m.spares j = true)
    (at_ : f.sessions[j]? = some o) :
    g.sessions[j]? = some o ∧ ∀ location ∈ o.locations, ∀ storage path,
      path.atOrBelow location = true →
        there g.held storage path = there f.held storage path := by
  -- What is proper in the end was proper all along, so it is assumed of each end in turn.
  refine Schedule.induction (motive := fun stretch g => Proper g →
    (∀ m ∈ stretch, m.spares j = true) → g.sessions[j]? = some o ∧ ∀ location ∈ o.locations,
      ∀ storage path, path.atOrBelow location = true →
        there g.held storage path = there f.held storage path) ?_ ?_ later proper spares
  · exact fun _ _ => ⟨at_, fun _ _ _ _ _ => rfl⟩
  · intro stretch m e g earlier one ih proper spares
    have taken := Step.of_step one
    obtain ⟨still, kept⟩ := ih (taken.proper proper) fun m mem =>
      spares m (List.mem_append_left _ mem)
    have reached := h.append (Schedule.concat_iff.mpr ⟨e, earlier, one⟩)
    obtain ⟨now, keeps⟩ := taken.undisturbed proper reached confined still (spares m (by simp))
    exact ⟨now, fun location mine storage path below =>
      (keeps location mine storage path below).trans (kept location mine storage path below)⟩

/-- **Sessions do not touch each other's locations**, whatever storages answer, and however the calls
on them overlap. -/
theorem Reached.apart (h : Reached uri keep moves f) (proper : Proper f)
    (confined : Confined keep there) : Apart uri keep there moves f where
  own k o at_ e mem path storage place := by
    obtain ⟨w, asked, rfl⟩ := List.mem_map.mp (h.mem_locations at_ mem place)
    exact fileName?_locationOf (proper.named _ (sessionId_mem at_))
  away j k o p distinct at_ other e mem path storage place location mine :=
    proper.not_inLine distinct at_ other mine (h.mem_locations other mem place)
  tracked k o at_ path known := by
    obtain ⟨own, reached⟩ := h.session at_
    obtain ⟨location, known⟩ := Option.isSome_iff_exists.mp known
    obtain ⟨w, asked, rfl⟩ := reached.calls.asked_of_known known
    exact List.mem_map.mpr ⟨w, asked, rfl⟩
  undisturbed _ _ _ _ _ _ reached later spares at_ :=
    reached.undisturbed confined later proper spares at_

/-- Storages that make folders one by one, and delete exactly what lies at or below a path. -/
theorem confined_after : Confined LocationCalls.Contents.after fun there => there := by
  intro held e storage path away
  show held.after e storage path = held storage path
  rw [held.after_eq]
  cases e with
  | createAnswered i s p answer =>
    cases answer with
    | error e => simp [Happening.makes, Happening.removes]
    | ok done =>
      have other : ¬ (storage = s ∧ path = p) := by
        rintro ⟨rfl, rfl⟩
        exact away path rfl (.inl path.atOrBelow_self)
      simp [Happening.makes, Happening.removes, other]
  | deleteAnswered i s p answer =>
    cases answer with
    | error e => simp [Happening.makes, Happening.removes]
    | ok found =>
      have other : (decide (storage = s) && path.atOrBelow p) = false := by
        by_contra both
        obtain ⟨rfl, below⟩ : storage = s ∧ path.atOrBelow p = true := by simpa using both
        exact away p rfl (.inr below)
      simp only [Happening.makes, Happening.removes, other, Bool.or_false, Bool.not_false,
        Bool.and_true]
  | _ => simp [Happening.makes, Happening.removes]

/-! ### Trying things out -/

/-- A table is registered by the first call on a session. -/
def registered (w : Workspace) : List Registrations.Move :=
  [.register w "t" "a", .locations (.proceed 0), .locations (.proceed 0),
    .locations (.proceed 0), .locations (.create 0 (.ok ())), .locations (.proceed 0),
    .locations (.probe 0 (.ok true)), .locations (.proceed 0), .enlist 0]

/-- A session comes that is called `id`. -/
def coming (id : String) : Move ρ := .welcome ⟨none, [], false, false, none, []⟩ id ⟨"u"⟩

/-- Two sessions on one storage, one below a root that lies beside the location of the other, which
is closed. -/
def sideBySide : List (Move LocationCalls.Contents) :=
  [coming "r", coming "s"] ++
    (registered ⟨"w", "nested", "m1", ⟨"memory", "", ["tmp", "x"]⟩⟩).map
      (.session 0 <| .registrations ·) ++
    seen.map (.session 1 <| .registrations ·)

/-- The location of the session that is not closed stays. -/
theorem apart_sideBySide : ∃ f : ConcurrentSessions LocationCalls.Contents,
    (⟨[], fun _ _ => false⟩ : ConcurrentSessions LocationCalls.Contents).run id
      LocationCalls.Contents.after sideBySide =
      some f ∧ Apart id LocationCalls.Contents.after (fun there => there) sideBySide f ∧
        f.held "m1" ⟨"memory", "", ["tmp", "x", "r"]⟩ = true ∧
          f.held "m1" ⟨"memory", "", ["tmp", "s"]⟩ = false := by
  refine ⟨_, rfl, Reached.apart ⟨fun _ _ => false, rfl⟩ ?_ confined_after, rfl, rfl⟩
  exact ⟨by decide, by decide, by decide⟩

end ConcurrentSessions

end QuerySession
