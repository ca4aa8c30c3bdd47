import QuerySession.Proofs.LocationCalls.Closing
import QuerySession.Proofs.LocationCalls.Ledger

/-!
# What is deleted at the end

The locations that are deleted at the end are those that some call was told are there, each once,
and each on the storage that made it.  `Reachable.accounted` says so for whole runs, with failed
attempts, attempts made on behalf of other workspaces, and any number of `cleanup`s.

What was granted is what was confirmed (`Reachable.granted_iff`), which the books tie to what is
deleted.  That nothing is deleted twice is due to the first `cleanup` leaving nothing to the others:
once it has returned, a `cleanup` that has the locations for itself is done (`Reachable.spent`).

* `Reachable.granted_iff` — a path is granted exactly when its location was confirmed
* `Reachable.namer_of_clears` — a deletion goes to the storage of the first call for the location
* `Reachable.spent` — nothing is left for a second `cleanup`
* `Reachable.accounted` — the theorem
-/

namespace QuerySession.LocationCalls

variable {uri : String → String} {t u v : LocationCalls}

/-! ## What was granted -/

/-- Some call was told that its location at `path` is there. -/
def Granted (path : StoragePath) (h : List Happening) : Prop :=
  ∃ i, Happening.returned i path (.ok path) ∈ h

/-- A call that answers a path answers its own. -/
theorem Reachable.granted_iff_tally (h : Reachable uri t) (path : StoragePath) :
    Granted path t.history ↔ 0 < tally (Happening.grants path) t.history := by
  rw [tally_pos_iff]
  constructor
  · rintro ⟨i, mem⟩
    exact ⟨_, mem, decide_eq_true rfl⟩
  · rintro ⟨e, mem, grants⟩
    cases e with
    | returned i p result =>
      cases result with
      | ok r =>
        cases of_decide_eq_true grants
        obtain ⟨w, done, -, ending, -⟩ := h.ending mem
        have own : r = path := by
          cases ending <;> rfl
        subst own
        exact ⟨i, mem⟩
      | error e => cases grants
    | _ => cases grants

/-- **What is granted is what was confirmed**, once nobody is about to return. -/
theorem Reachable.granted_iff (h : Reachable uri t) (path : StoragePath)
    (settled : t.stages.countP (Stage.granting path) = 0) :
    Granted path t.history ↔ 0 < tally (Happening.confirms path) t.history := by
  have granted := h.grants_eq path
  rw [h.granted_iff_tally path]
  constructor
  · intro some_
    by_contra unconfirmed
    have found := h.finds_eq_zero (Nat.eq_zero_of_not_pos unconfirmed)
    omega
  · intro confirmed
    omega

/-- Nobody is about to return a path when nobody has a share, or when the locations are closed. -/
theorem countP_granting_eq_zero {path : StoragePath}
    (nobody : t.stages.countP Stage.inside = 0) :
    t.stages.countP (Stage.granting path) = 0 := by
  refine Nat.le_zero.mp (nobody ▸ List.countP_mono_left fun stage _ granting => ?_)
  cases stage with
  | leaving p result =>
    cases result with
    | ok r => rfl
    | error e => cases granting
  | _ => cases granting

/-! ## Where it is deleted -/

/-- The deletions of a call, sent or not, and not answered. -/
def Stage.entries : Stage → List (StoragePath × String)
  | deleting left underway _ => left ++ underway
  | _ => []

/-- The location that a deletion is about, and the storage. -/
def Happening.clearing : Happening → Option (StoragePath × String)
  | deleteSent _ storage path _ | deleteAnswered _ storage path _ => some (path, storage)
  | _ => none

/-- A call sends and awaits deletions that it had among its own. -/
theorem Shift.entries {i : Nat} {old new : Stage} {happening : Happening} {l : Locations}
    (shift : Shift uri t i old happening new l) (unlocking : old ≠ .closing)
    {e : StoragePath × String}
    (among : e ∈ new.entries ∨ happening.clearing = some e) : e ∈ old.entries := by
  cases shift with
  | locked _ _ => exact absurd rfl unlocking
  | @deleteSent left underway count k picked_ picked =>
    have here : picked_ ∈ left := List.mem_of_getElem? picked
    simp only [Stage.entries, Happening.clearing, List.mem_append, List.mem_singleton,
      Option.some.injEq] at among ⊢
    rcases among with (rest | waiting | rfl) | rfl
    · exact .inl (List.mem_of_mem_eraseIdx rest)
    · exact .inr waiting
    · exact .inl here
    · exact .inl here
  | @deleteAnswered left underway count k picked_ answer picked =>
    have here : picked_ ∈ underway := List.mem_of_getElem? picked
    simp only [Stage.entries, Happening.clearing, List.mem_append, Option.some.injEq]
      at among ⊢
    rcases among with (left_ | rest) | rfl
    · exact .inl left_
    · exact .inr (List.mem_of_mem_eraseIdx rest)
    · exact .inr here
  | _ =>
    rcases among with mem | clearing
    · cases mem
    · cases clearing

/-- The deletions of a call are on the storages of the calls that named the locations first. -/
theorem Reachable.namer_of_entries (h : Reachable uri t) {i : Nat} {stage : Stage}
    (at_ : t.stages[i]? = some stage) {e : StoragePath × String} (mem : e ∈ stage.entries) :
    namer? t.locations.sessionId e.1 t.history = some e.2 := by
  induction h using Reachable.induction generalizing i stage with
  | start sessionId spans _ => cases at_
  | @step t u happening before _ taken ih =>
    rw [taken.history_eq, taken.sessionId_eq]
    refine namer?_append_of_some ?_ _
    cases taken with
    | called request =>
      rcases getElem?_join at_ with earlier | ⟨_, rfl⟩
      · exact ih earlier mem
      · cases request <;> cases mem
    | @moved j old new _ l stood shift =>
      rw [getElem?_put stood] at at_
      by_cases same : j = i
      · subst same
        rw [if_pos rfl] at at_
        cases at_
        by_cases locking : old = .closing
        · cases shift with
          | locked _ _ =>
            simp only [Stage.entries, List.append_nil] at mem
            have known := Locations.mem_drain_iff.mp mem
            cases closed : t.locations.closed with
            | false =>
              rw [← before.storage_eq closed e.1, known]
              rfl
            | true =>
              -- There was nothing left to forget.
              rw [before.gate.emptied closed] at known
              cases known
          | _ => cases locking
        · exact ih stood (shift.entries locking (.inl mem))
      · rw [if_neg same] at at_
        exact ih at_ mem

/-- **A deletion goes to the storage of the call that named the location first.** -/
theorem Reachable.namer_of_clears (h : Reachable uri t) {happening : Happening}
    (mem : happening ∈ t.history) {path : StoragePath} {storage : String}
    (clearing : happening.clearing = some (path, storage)) :
    namer? t.locations.sessionId path t.history = some storage := by
  apply h.namer_of_mem mem
  intro u v reached taken
  cases taken with
  | called request => cases clearing
  | @moved i old _ _ _ at_ shift =>
    have unlocking : old ≠ .closing := by
      rintro rfl
      cases shift
      cases clearing
    exact reached.namer_of_entries at_ (shift.entries unlocking (.inr clearing))

/-! ## Only the first -/

/-- Whether a call has nothing left to delete, and has counted nothing. -/
def Stage.spent : Stage → Bool
  | deleting [] [] 0 => true
  | deleting .. => false
  | _ => true

/-- Who does not have the locations for itself has nothing to delete. -/
theorem Stage.spent_of_not_excludes {stage : Stage} (outside : stage.excludes = false) :
    stage.spent = true := by
  cases stage with
  | deleting left underway count => cases outside
  | _ => rfl

/-- When somebody has the locations for itself, they are closed. -/
theorem Gate.closed_of_excludes (gate : Gate t) {i : Nat} {stage : Stage}
    (at_ : t.stages[i]? = some stage) (excludes : stage.excludes = true) :
    t.locations.closed = true := by
  refine gate.closed_of_writer (Nat.ne_of_gt ?_)
  exact List.countP_pos_iff.mpr ⟨stage, List.mem_of_getElem? at_, excludes⟩

/-- When a `cleanup` returned, the locations are closed. -/
theorem Reachable.closed_of_cleaned (h : Reachable uri t) {i count : Nat}
    (mem : .cleaned i count ∈ t.history) : t.locations.closed = true := by
  obtain ⟨before, after, split⟩ := List.append_of_mem mem
  obtain ⟨u, v, moves, reached, -, taken, reached', later⟩ := h.moment split
  have closed : u.locations.closed = true := by
    cases taken with
    | moved at_ shift =>
      cases shift with
      | cleaned => exact reached.gate.closed_of_excludes at_ rfl
  have same := taken.locations_eq reached.gate closed
  rw [reached'.locations_run (same ▸ closed) later, same]
  exact closed

/-- **Nothing is left for a second `cleanup`.**  After one has returned, no call has anything to
delete, nor will have. -/
theorem Reachable.spent (h : Reachable uri t) {i count : Nat}
    (mem : .cleaned i count ∈ t.history) {j : Nat} {stage : Stage}
    (at_ : t.stages[j]? = some stage) : stage.spent = true := by
  induction h using Reachable.induction generalizing j stage with
  | start sessionId spans _ => cases at_
  | @step t u happening before _ taken ih =>
    rw [taken.history_eq] at mem
    rcases List.mem_append.mp mem with earlier | last
    · -- It had returned before: whoever locks now finds nothing.
      have closed := before.closed_of_cleaned earlier
      cases taken with
      | called request =>
        rcases getElem?_join at_ with stood | ⟨_, rfl⟩
        · exact ih earlier stood
        · cases request <;> rfl
      | @moved k old new _ l stood shift =>
        have was := ih earlier stood
        rw [getElem?_put stood] at at_
        by_cases same : k = j
        · subst same
          rw [if_pos rfl] at at_
          cases at_
          cases shift with
          | locked _ _ =>
            rw [Locations.drain_of_drained closed (before.gate.emptied closed)]
            rfl
          | @deleteSent left underway count k e picked =>
            cases left with
            | nil => cases picked
            | cons e left => cases was
          | @deleteAnswered left underway count k e answer picked =>
            cases underway with
            | nil => cases picked
            | cons e underway => cases left <;> cases was
          | _ => rfl
        · rw [if_neg same] at at_
          exact ih earlier at_
    · -- It returns now, and was the only one to have the locations for itself.
      cases List.mem_singleton.mp last
      cases taken with
      | moved stood shift =>
        cases shift with
        | cleaned =>
          refine Stage.spent_of_not_excludes (not_of_countP_eq_zero ?_ at_)
          have one := before.gate.one_writer
          have fewer := countP_put Stage.excludes stood (.cleaned count) (.cleaned i count)
            t.locations
          simp only [Stage.excludes, Bool.toNat_true, Bool.toNat_false] at fewer
          have same : t.writers = t.stages.countP Stage.excludes := rfl
          omega

/-- What only those hold that have something left is held by nobody then. -/
theorem Reachable.stock_eq_zero_of_spent (h : Reachable uri t) {i count : Nat}
    (returned : .cleaned i count ∈ t.history) {amount : Stage → Nat}
    (nothing : ∀ {stage : Stage}, stage.spent = true → amount stage = 0) :
    stock amount t = 0 := by
  apply stock_eq_zero
  intro stage stands
  obtain ⟨j, at_⟩ := List.mem_iff_getElem?.mp stands
  exact nothing (h.spent returned at_)

/-! ## The accounts -/

/-- What is kept account of. -/
structure Accounted (uri : String → String) (t : LocationCalls) : Prop where
  /-- The three views of the locations agree, and none is listed twice. -/
  views : (∀ path, t.locations.contains path = true ↔ path ∈ t.locations.paths) ∧
    t.locations.size = t.locations.paths.length ∧ t.locations.paths.Nodup
  /-- Before the end, and with no call on its way, the locations are those that were granted. -/
  tracked : t.locations.closed = false → t.readers = 0 →
    ∀ path, path ∈ t.locations.paths ↔ Granted path t.history
  /-- When a `cleanup` has returned, each location that was granted was asked to be deleted once,
  and no other one. -/
  deletions : ∀ i count, .cleaned i count ∈ t.history → ∀ path,
    (Granted path t.history → tally (Happening.deletes path) t.history = 1) ∧
      (¬ Granted path t.history → tally (Happening.deletes path) t.history = 0)
  /-- It is deleted with all that is in it. -/
  recursively : ∀ i storage path recursive,
    .deleteSent i storage path recursive ∈ t.history → recursive = true
  /-- All that is asked for a location is asked of one storage, that of the workspace that named
  the location first. -/
  one_storage : ∀ e ∈ t.history, ∀ path storage,
    e.provisions = some (path, storage) ∨ e.clearing = some (path, storage) →
      namer? t.locations.sessionId path t.history = some storage
  /-- What a deletion answers, or whether it answers, keeps no other one from being sent. -/
  undeterred : ∀ i left underway count k, t.stages[i]? = some (.deleting left underway count) →
    k < left.length → (t.step uri (.send i k)).isSome = true
  /-- When no `cleanup` is at it, the counts they returned are what the deletions found. -/
  counted : t.writers = 0 → total Happening.counts t.history = tally Happening.deleted t.history
  /-- After the first `cleanup` nothing is deleted, and nothing counted. -/
  only_first : ∀ before i count after, t.history = before ++ .cleaned i count :: after →
    (∀ e ∈ after, e.clearing = none) ∧ ∀ j n, .cleaned j n ∈ after → n = 0

/-- Who has nothing left has no deletion of any path left. -/
theorem Stage.leftAt_eq_zero {stage : Stage} (spent : stage.spent = true) (path : StoragePath) :
    stage.leftAt path = 0 := by
  cases stage with
  | deleting left underway count =>
    cases left with
    | nil => rfl
    | cons e left => cases spent
  | _ => rfl

/-- When no `cleanup` is at it, nothing is counted that was not returned. -/
theorem counted_eq_zero (free : t.writers = 0) : stock Stage.counted t = 0 := by
  apply stock_eq_zero
  intro stage stands
  have outside := List.countP_eq_zero.mp free stage stands
  cases stage with
  | deleting left underway count => exact absurd rfl outside
  | _ => rfl

/-- **What is deleted at the end** is what was granted, once, where it was made, in every schedule
of any calls and with any answers of the storages. -/
theorem Reachable.accounted (h : Reachable uri t) : Accounted uri t where
  views := ⟨fun _ => Locations.mem_paths_iff.symm, rfl, t.locations.nodup_paths⟩
  tracked := by
    intro open_ unshared path
    have nobody : t.stages.countP Stage.inside = 0 := by
      have := inside_le_readers t
      omega
    rw [h.granted_iff path (countP_granting_eq_zero nobody), h.confirmed_eq open_ path,
      Locations.mem_paths_iff]
    cases t.locations.contains path <;> decide
  deletions := by
    intro i count returned path
    have closed := h.closed_of_cleaned returned
    have granted := h.granted_iff path
      (countP_granting_eq_zero (h.gate.nobody_inside closed))
    have deleted := h.deletes_eq path
    have once := h.confirmed_le_one path
    have nothing_left : stock (Stage.leftAt path) t = 0 :=
      h.stock_eq_zero_of_spent returned fun spent => Stage.leftAt_eq_zero spent path
    rw [closed, if_pos rfl, nothing_left] at deleted
    rw [granted]
    constructor <;> intro <;> omega
  recursively := by
    intro i storage path recursive mem
    obtain ⟨before, after, split⟩ := List.append_of_mem mem
    obtain ⟨u, v, moves, -, -, taken, -, -⟩ := h.moment split
    cases taken with
    | moved at_ shift =>
      cases shift
      rfl
  one_storage := by
    intro e mem path storage about
    rcases about with provisions | clearing
    · exact h.namer_of_provisions mem provisions
    · exact h.namer_of_clears mem clearing
  undeterred := by
    intro i left underway count k at_ bound
    rw [step, at_]
    simp only [List.getElem?_eq_getElem bound, Option.map_some, Option.isSome_some]
  counted := by
    intro free
    have counts := h.counts_eq
    have := counted_eq_zero free
    omega
  only_first := by
    intro before i count after split
    have nothing_left {e : Happening} (mem : e ∈ after) :
        e.clearing = none ∧ ∀ j n, e = .cleaned j n → n = 0 := by
      obtain ⟨u, v, reached, returned, taken⟩ := h.moment_since split mem
      cases taken with
      | called request =>
        refine ⟨rfl, ?_⟩
        rintro j m ⟨⟩
      | moved at_ shift =>
        have spent := reached.spent returned at_
        cases shift with
        | @deleteSent left underway n k e picked =>
          cases left with
          | nil => cases picked
          | cons e left => cases spent
        | @deleteAnswered left underway n k e answer picked =>
          cases underway with
          | nil => cases picked
          | cons e underway => cases left <;> cases spent
        | @cleaned n =>
          refine ⟨rfl, ?_⟩
          rintro j m ⟨⟩
          cases n with
          | zero => rfl
          | succ n => cases spent
        | _ =>
          refine ⟨rfl, ?_⟩
          rintro j m ⟨⟩
    exact ⟨fun e mem => (nothing_left mem).1, fun j n mem => (nothing_left mem).2 j n rfl⟩

/-- A second workspace with the same root, on another storage. -/
def scratchTwin : Workspace := ⟨"w2", "scratch", "m2", ⟨"memory", "", ["tmp"]⟩⟩

/-- A failed attempt, a retry by a call for the other workspace, and two `cleanup`s. -/
def takenOver : List Move :=
  [.call (.ensure scratch), .proceed 0, .proceed 0, .proceed 0, .create 0 (.error .unreadable),
    .proceed 0, .call (.ensure scratchTwin), .proceed 1, .proceed 1, .proceed 1, .create 1 (.ok ()),
    .proceed 1, .probe 1 (.ok true), .proceed 1, .call .cleanup, .call .cleanup, .proceed 2,
    .send 2 0, .delete 2 0 (.ok true), .proceed 2, .proceed 3, .proceed 3]

/-- The location is deleted once, on the storage of the workspace that named it first. -/
theorem accounted_takenOver : ∃ t, fresh.run id takenOver = some t ∧ Accounted id t ∧
    tally (Happening.deletes (t.pathIn scratch)) t.history = 1 ∧
      .deleteSent 2 "m1" (t.pathIn scratch) true ∈ t.history ∧
        total Happening.counts t.history = 1 := by
  have kept : Accounted id _ := Reachable.accounted (.of_trial takenOver rfl)
  refine ⟨_, rfl, kept, ?_, List.mem_of_getElem? (i := 17) rfl, kept.counted rfl⟩
  exact (kept.deletions 2 1 (List.mem_of_getElem? (i := 19) rfl) _).1
    ⟨1, List.mem_of_getElem? (i := 13) rfl⟩

end QuerySession.LocationCalls
