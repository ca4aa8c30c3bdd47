import QuerySession.Proofs.Storage.Removal

/-!
# Folders that are not to last

A creation may ask that the folders it makes do not outlast the storage.  The outermost of them goes
on the schedule, and when the storage is given up it is removed with all that is below it.  A
deletion takes what is at or below its path off the schedule before it is known to succeed, and does
not put it back when it fails: then a folder that is not to last is left.

## Main Definitions

* `LocalStorage.Call.Releases` — a call takes a path off the schedule
* `LocalStorage.ReleasedInVain` — a path was taken off the schedule by a deletion that failed
* `LocalStorage.Kept` — a folder that was made and has been on the disk ever since

## Main Results

* `LocalStorage.Orderly.run` — all along a run the disk is a tree, and what is scheduled can be removed
* `LocalStorage.kept_left_iff` — exactly which folders are left

## Implementation Notes

Folders that are already there cannot be covered anew, since only what is missing is put on the
schedule.  So a folder is covered in the end by those paths that covered it when it was made and that
no deletion has released (`run_covered_iff`).
-/

namespace QuerySession

namespace LocalStorage

open Disk

variable {s : LocalStorage} {spans : List String} {scene : Scene LocalStorage} {call : Call}
  {calls : List Call} {g place folder : List String}

/-! ## One call -/

/-- The storage after a call, or after an addition of others. -/
def afterwards (s : LocalStorage) : Call → LocalStorage
  | .create p strategy => (s.created p strategy).2
  | .delete p recursive => (s.deleted p recursive).2
  | .add place entry => s.add place entry

theorem serve_outside (spans : List String) (scene : Scene LocalStorage) (call : Call) :
    (serve spans scene call).outside = scene.outside.afterwards call := by
  cases call with
  | create p strategy =>
    obtain ⟨events, outcome⟩ := create_outcome p strategy spans scene
    exact congrArg (fun result => result.2.outside) outcome
  | delete p recursive =>
    show (Attempt.outcome (delete p recursive >>= fun _ => pure ()) spans scene).2.outside = _
    rw [Attempt.bind_eq, delete_outcome]
    cases (scene.outside.deleted p recursive).1 <;> rfl
  | add place entry => rfl

/-- Folders that are not to last are made along a path without double dots. -/
def Call.Plain : Call → Prop
  | .create p strategy => strategy.deleteOnExit = true → ".." ∉ p.segments
  | .delete .. | .add .. => True

/-- The disk is a tree, and what is scheduled can be removed. -/
structure Orderly (s : LocalStorage) : Prop where
  tree : s.disk.IsTree
  sweepable : ∀ g ∈ s.schedule, Sweepable g

theorem Orderly.on {d : Disk} (tree : d.IsTree) : Orderly (.on d) :=
  ⟨tree, fun _ mem => absurd mem List.not_mem_nil⟩

/-- What a creation puts on the schedule was the outermost missing path. -/
theorem Orderly.created_schedule (orderly : s.Orderly) {p : StoragePath} {strategy : FolderStrategy}
    (plain : (Call.create p strategy).Plain) : (s.created p strategy).2.schedule = s.schedule ∨
      ∃ g, Outermost s.disk p.segments g ∧
        (s.created p strategy).2.schedule = enlist s.schedule g := by
  rcases (created_left orderly.tree p strategy).2 with same | ⟨temporary, succeeded⟩
  · exact .inl same
  · cases created_ok orderly.tree (plain temporary) (Prod.ext succeeded rfl) with
    | found disk schedule => exact .inl schedule
    | made g outermost grown stands schedule =>
      rw [if_pos temporary] at schedule
      exact .inr ⟨g, outermost, schedule⟩

/-- The schedule after a deletion, which need not have succeeded. -/
theorem deleted_schedule (s : LocalStorage) (p : StoragePath) (recursive : Bool) :
    (s.deleted p recursive).2.schedule =
      if p.scheme = "file" then release s.schedule p.segments else s.schedule := by
  by_cases mine : p.scheme = "file"
  · rw [deleted_of_file s mine, if_pos mine]
  · obtain ⟨e, same⟩ := deleted_of_foreign s mine recursive
    rw [same, if_neg mine]

theorem Orderly.afterwards (orderly : s.Orderly) (plain : call.Plain) :
    (s.afterwards call).Orderly := by
  cases call with
  | create p strategy =>
    refine ⟨(created_left orderly.tree p strategy).1, fun g mem => ?_⟩
    change g ∈ (s.created p strategy).2.schedule at mem
    rcases orderly.created_schedule plain with same | ⟨new, outermost, schedule⟩
    · exact orderly.sweepable g (same ▸ mem)
    · rcases mem_enlist (schedule ▸ mem) with old | rfl
      · exact orderly.sweepable g old
      · exact outermost.sweepable
  | delete p recursive =>
    constructor
    · show (s.deleted p recursive).2.disk.IsTree
      by_cases mine : p.scheme = "file"
      · rw [deleted_of_file s mine]
        exact (deleteAt_deletion ..).tree orderly.tree
      · obtain ⟨e, same⟩ := deleted_of_foreign s mine recursive
        rw [same]
        exact orderly.tree
    · intro g mem
      change g ∈ (s.deleted p recursive).2.schedule at mem
      rw [deleted_schedule] at mem
      split at mem
      · exact orderly.sweepable g (List.mem_of_mem_filter mem)
      · exact orderly.sweepable g mem
  | add place entry => exact ⟨orderly.tree.add place entry, orderly.sweepable⟩

/-! ## All calls -/

theorem run_cons (spans : List String) (scene : Scene LocalStorage) (call : Call)
    (calls : List Call) : run spans scene (call :: calls) = run spans (serve spans scene call) calls :=
  rfl

theorem run_append (spans : List String) (scene : Scene LocalStorage) (calls more : List Call) :
    run spans scene (calls ++ more) = run spans (run spans scene calls) more := List.foldl_append ..

/-- **All along a run** the disk is a tree, and what is scheduled can be removed. -/
theorem Orderly.run (orderly : scene.outside.Orderly) (plain : ∀ call ∈ calls, call.Plain) :
    (run spans scene calls).outside.Orderly := by
  induction calls generalizing scene with
  | nil => exact orderly
  | cons call calls ih =>
    obtain ⟨first, rest⟩ := List.forall_mem_cons.mp plain
    rw [run_cons]
    refine ih ?_ rest
    rw [serve_outside]
    exact orderly.afterwards first

/-! ## What covers a folder -/

/-- A call takes a path off the schedule. -/
def Call.Releases (g : List String) : Call → Prop
  | .delete p _ => p.scheme = "file" ∧ isAtOrBelow g p.segments = true
  | .create .. | .add .. => False

/-- What covers a folder that is there: what has covered it before and is not released. -/
theorem Orderly.covered_iff (orderly : s.Orderly) (plain : call.Plain)
    (there : s.disk.hasFolder folder = true) :
    (g ∈ (s.afterwards call).schedule ∧ Covers g folder) ↔
      (g ∈ s.schedule ∧ Covers g folder) ∧ ¬call.Releases g := by
  cases call with
  | create p strategy =>
    show g ∈ (s.created p strategy).2.schedule ∧ _ ↔ _ ∧ ¬False
    rw [not_false_iff, and_true]
    rcases orderly.created_schedule plain with same | ⟨new, outermost, schedule⟩
    · rw [same]
    · refine and_congr_left fun covers => ?_
      rw [schedule]
      refine ⟨fun mem => ?_, mem_enlist_of_mem⟩
      rcases mem_enlist mem with old | rfl
      · exact old
      · -- What is put on the schedule was missing, and so would be the folder.
        have gone := orderly.tree.find?_eq_none covers outermost.free
        rw [hasFolder, gone] at there
        cases there
  | delete p recursive =>
    show g ∈ (s.deleted p recursive).2.schedule ∧ _ ↔ _ ∧ ¬(_ ∧ _)
    rw [deleted_schedule]
    by_cases mine : p.scheme = "file"
    · rw [if_pos mine, release, List.mem_filter, Bool.not_eq_true', and_right_comm]
      simp [mine]
    · simp [mine]
  | add place entry =>
    show g ∈ s.schedule ∧ _ ↔ _ ∧ ¬False
    rw [not_false_iff, and_true]

/-- What covers a folder that has been there all along a run. -/
theorem Orderly.run_covered_iff (orderly : scene.outside.Orderly)
    (plain : ∀ call ∈ calls, call.Plain)
    (stays : ∀ n, (LocalStorage.run spans scene (calls.take n)).outside.disk.hasFolder folder =
      true) :
    (g ∈ (LocalStorage.run spans scene calls).outside.schedule ∧ Covers g folder) ↔
      (g ∈ scene.outside.schedule ∧ Covers g folder) ∧ ∀ call ∈ calls, ¬call.Releases g := by
  induction calls generalizing scene with
  | nil => simp [LocalStorage.run]
  | cons call calls ih =>
    obtain ⟨first, rest⟩ := List.forall_mem_cons.mp plain
    have orderly' : (serve spans scene call).outside.Orderly := by
      rw [serve_outside]
      exact orderly.afterwards first
    rw [run_cons, ih orderly' rest fun n => stays (n + 1), serve_outside,
      orderly.covered_iff first (stays 0), List.forall_mem_cons, and_assoc]

/-- A call that releases what covers a folder, and leaves the folder, has failed. -/
theorem Orderly.fails_of_releases (orderly : scene.outside.Orderly) {q : StoragePath}
    {recursive : Bool} (sweepable : Sweepable g) (covers : Covers g folder)
    (releases : (Call.delete q recursive).Releases g)
    (before : scene.outside.disk.hasFolder folder = true)
    (after : (serve spans scene (.delete q recursive)).outside.disk.hasFolder folder = true) :
    ∃ e, ((perform (.delete q recursive)).outcome spans scene).1 = .error e := by
  obtain ⟨mine, below⟩ := releases
  have above : withoutDots q.segments <+: withoutDots g := List.isPrefixOf_iff_prefix.mp below
  have plain : ".." ∉ q.segments := by
    intro mem
    have kept : ".." ∈ withoutDots q.segments := List.mem_filter.mpr ⟨mem, by decide⟩
    exact not_mem_withoutDots sweepable.plain (above.subset kept)
  have folder_ne : folder ≠ [] := by
    rintro rfl
    exact sweepable.ne_nil (List.prefix_nil.mp covers)
  have deleted_eq := deleted_of_file scene.outside mine recursive
  rw [serve_outside] at after
  change (scene.outside.deleted q recursive).2.disk.hasFolder folder = true at after
  rw [deleted_eq] at after
  obtain ⟨fault, failed⟩ := (deleteAt_deletion ..).fails orderly.tree plain (above.trans covers)
    folder_ne before after
  refine ⟨.system fault.message, ?_⟩
  show (Attempt.outcome (delete q recursive >>= fun _ => pure ()) spans scene).1 = _
  rw [Attempt.bind_eq, delete_outcome, deleted_eq, failed]
  rfl

/-! ## What is left -/

/-- One of the calls took a path off the schedule, and failed. -/
def ReleasedInVain (spans : List String) (scene : Scene LocalStorage) (calls : List Call)
    (g : List String) : Prop :=
  ∃ earlier q recursive later, calls = earlier ++ .delete q recursive :: later ∧
    (Call.delete q recursive).Releases g ∧
      ∃ e, ((perform (.delete q recursive)).outcome spans (run spans scene earlier)).1 = .error e

/-- A path that was taken off the schedule, above a folder that has been there all along a run. -/
theorem Orderly.releasedInVain (orderly : scene.outside.Orderly)
    (plain : ∀ call ∈ calls, call.Plain)
    (stays : ∀ n, (LocalStorage.run spans scene (calls.take n)).outside.disk.hasFolder folder =
      true)
    (mem : g ∈ scene.outside.schedule) (covers : Covers g folder)
    (released : ∃ call ∈ calls, call.Releases g) : ReleasedInVain spans scene calls g := by
  obtain ⟨call, mem_calls, releases⟩ := released
  obtain ⟨earlier, later, calls_eq⟩ := List.append_of_mem mem_calls
  cases call with
  | create | add => exact releases.elim
  | delete q recursive =>
    refine ⟨earlier, q, recursive, later, calls_eq, releases, ?_⟩
    have before := stays earlier.length
    have after := stays (earlier.length + 1)
    rw [calls_eq, List.take_left] at before
    rw [calls_eq, List.take_length_add_append, List.take_succ_cons, List.take_zero, run_append]
      at after
    have plain_earlier : ∀ call ∈ earlier, call.Plain := fun call mem =>
      plain call (calls_eq ▸ List.mem_append_left _ mem)
    exact (orderly.run plain_earlier).fails_of_releases (orderly.sweepable g mem) covers releases
      before after

/-- When the storage is given up after a run, a folder that has been there all along is left if each
path that covered it in the beginning was released by a deletion that failed, and only then. -/
theorem Orderly.left_iff (orderly : scene.outside.Orderly) (plain : ∀ call ∈ calls, call.Plain)
    (stays : ∀ n, (LocalStorage.run spans scene (calls.take n)).outside.disk.hasFolder folder =
      true)
    {order : List (List String)}
    (drained : order.Perm (LocalStorage.run spans scene calls).outside.schedule)
    (last : List String) (reported : List Event) :
    (giveUp last ⟨⟨(LocalStorage.run spans scene calls).outside.disk, order⟩,
        reported⟩).2.outside.disk.hasFolder folder = true ↔
      ∀ g ∈ scene.outside.schedule, Covers g folder → ReleasedInVain spans scene calls g := by
  have orderly' : (LocalStorage.run spans scene calls).outside.Orderly := orderly.run plain
  have there : (LocalStorage.run spans scene calls).outside.disk.hasFolder folder = true := by
    have whole := stays calls.length
    rwa [List.take_length] at whole
  have sweepable : ∀ g ∈ order, Sweepable g := fun g mem =>
    orderly'.sweepable g (drained.mem_iff.mp mem)
  have swept := find?_sweep orderly'.tree sweepable folder
  rw [giveUp_outside]
  constructor
  · intro left g mem covers
    refine orderly.releasedInVain plain stays mem covers ?_
    -- Otherwise the path would still be on the schedule.
    by_contra never
    have still := (orderly.run_covered_iff plain stays).mpr
      ⟨⟨mem, covers⟩, fun call mem releases => never ⟨call, mem, releases⟩⟩
    have gone := swept.1 ⟨g, drained.mem_iff.mpr still.1,
      orderly'.tree.hasFolder_of_hasFolder covers there, covers⟩
    rw [hasFolder, gone] at left
    cases left
  · intro each
    have uncovered : ¬∃ g ∈ order, (LocalStorage.run spans scene calls).outside.disk.hasFolder
        (withoutDots g) = true ∧ withoutDots g <+: folder := by
      rintro ⟨g, mem, -, covers⟩
      obtain ⟨⟨old, -⟩, never⟩ := (orderly.run_covered_iff plain stays).mp
        ⟨drained.mem_iff.mp mem, covers⟩
      obtain ⟨earlier, q, recursive, later, calls_eq, releases, -⟩ := each g old covers
      refine never _ ?_ releases
      rw [calls_eq]
      exact List.mem_append_right _ List.mem_cons_self
    rw [hasFolder, swept.2 uncovered]
    exact there

/-- A folder that a creation made and that is not to last, and that has been on the disk ever since.
Some calls were made before the creation, and some after it. -/
structure Kept (spans : List String) (start : Scene LocalStorage) (before : List Call)
    (p : StoragePath) (strategy : FolderStrategy) (after : List Call) (folder : List String) :
    Prop where
  temporary : strategy.deleteOnExit = true
  succeeded : ((perform (.create p strategy)).outcome spans (run spans start before)).1 = .ok ()
  new : (run spans start before).outside.disk.find? folder = none
  stays : ∀ n, (run spans start (before ++ .create p strategy :: after.take n)
    ).outside.disk.hasFolder folder = true

/-- A folder that was just made is covered. -/
theorem Orderly.covered_of_made (orderly : scene.outside.Orderly) {p : StoragePath}
    {strategy : FolderStrategy} (plain : ".." ∉ p.segments)
    (temporary : strategy.deleteOnExit = true)
    (succeeded : ((perform (.create p strategy)).outcome spans scene).1 = .ok ())
    (new : scene.outside.disk.find? folder = none)
    (stands : (serve spans scene (.create p strategy)).outside.disk.hasFolder folder = true) :
    ∃ g ∈ (serve spans scene (.create p strategy)).outside.schedule, Covers g folder := by
  obtain ⟨events, outcome⟩ := create_outcome p strategy spans scene
  change ((create p strategy).outcome spans scene).1 = .ok () at succeeded
  rw [outcome] at succeeded
  rw [serve_outside] at stands ⊢
  change (scene.outside.created p strategy).2.disk.hasFolder folder = true at stands
  show ∃ g ∈ (scene.outside.created p strategy).2.schedule, _
  cases created_ok orderly.tree plain (Prod.ext succeeded rfl) with
  | found disk schedule =>
    rw [hasFolder, disk, new] at stands
    cases stands
  | made g outermost grown stands' schedule =>
    rw [schedule, if_pos temporary]
    exact exists_mem_enlist (grown.fresh folder new (isSome_of_hasFolder stands)).2.1

/-- **Which folders are left that were not to last.**  A folder was made by a creation that succeeds,
and has been on the disk ever since.  The schedule covers it when it is made; and when the storage is
given up, the scheduled folders being removed in any order, it is left if and only if each path that
covered it was released by a later deletion that failed. -/
theorem kept_left_iff {d : Disk} (tree : d.IsTree) {events : List Event} {before after : List Call}
    {p : StoragePath} {strategy : FolderStrategy}
    (plain : ∀ call ∈ before ++ .create p strategy :: after, call.Plain)
    (kept : Kept spans ⟨.on d, events⟩ before p strategy after folder)
    {order : List (List String)}
    (drained : order.Perm
      (run spans ⟨.on d, events⟩ (before ++ .create p strategy :: after)).outside.schedule)
    (last : List String) (reported : List Event) :
    (∃ g ∈ (run spans ⟨.on d, events⟩ (before ++ [.create p strategy])).outside.schedule,
        Covers g folder) ∧
      ((giveUp last
          ⟨⟨(run spans ⟨.on d, events⟩ (before ++ .create p strategy :: after)).outside.disk, order⟩,
            reported⟩).2.outside.disk.hasFolder folder = true ↔
        ∀ g ∈ (run spans ⟨.on d, events⟩ (before ++ [.create p strategy])).outside.schedule,
          Covers g folder →
            ReleasedInVain spans (run spans ⟨.on d, events⟩ (before ++ [.create p strategy])) after
              g) := by
  obtain ⟨plain_before, plain_create, plain_after⟩ :
      (∀ call ∈ before, call.Plain) ∧ (Call.create p strategy).Plain ∧
        ∀ call ∈ after, call.Plain := by
    rw [List.forall_mem_append, List.forall_mem_cons] at plain
    exact plain
  have orderly₀ : (run spans ⟨.on d, events⟩ before).outside.Orderly :=
    (Orderly.on tree).run plain_before
  -- The run goes on from the creation.
  have from_made (calls : List Call) :
      run spans ⟨.on d, events⟩ (before ++ .create p strategy :: calls) =
        run spans (run spans ⟨.on d, events⟩ (before ++ [.create p strategy])) calls := by
    rw [← run_append, List.append_assoc]
    rfl
  have made_eq : run spans ⟨.on d, events⟩ (before ++ [.create p strategy]) =
      serve spans (run spans ⟨.on d, events⟩ before) (.create p strategy) := by
    rw [run_append]
    rfl
  have orderly : (run spans ⟨.on d, events⟩ (before ++ [.create p strategy])).outside.Orderly := by
    rw [made_eq, serve_outside]
    exact orderly₀.afterwards plain_create
  have stays (n : Nat) := from_made (after.take n) ▸ kept.stays n
  constructor
  · have stands := kept.stays 0
    rw [List.take_zero, made_eq] at stands
    rw [made_eq]
    exact orderly₀.covered_of_made (plain_create kept.temporary) kept.temporary kept.succeeded
      kept.new stands
  · rw [from_made] at drained ⊢
    exact orderly.left_iff plain_after stays drained last reported

/-- Somebody puts a file into a folder, and then a folder is to be deleted. -/
def obstructed (names : List String) (recursive : Bool) : List Call :=
  [.add ["a", "b", "x"] (.file [120]), .delete ⟨"file", "", names⟩ recursive]

/-- The folder with the file is deleted, and the folder above it is not left. -/
theorem kept_left_cleared :
    Kept [] ⟨.on .empty, []⟩ [] ⟨"file", "", ["a", "b"]⟩ .temporary (obstructed ["a", "b"] true)
        ["a"] ∧
      ¬(giveUp [] (run [] ⟨.on .empty, []⟩ ([] ++ .create ⟨"file", "", ["a", "b"]⟩ .temporary ::
        obstructed ["a", "b"] true))).2.outside.disk.hasFolder ["a"] = true := by
  have plain : ∀ call ∈ [] ++ .create ⟨"file", "", ["a", "b"]⟩ .temporary ::
      obstructed ["a", "b"] true, call.Plain := by
    simp [obstructed, Call.Plain]
  have kept : Kept [] ⟨.on .empty, []⟩ [] ⟨"file", "", ["a", "b"]⟩ .temporary
      (obstructed ["a", "b"] true) ["a"] := by
    refine ⟨rfl, rfl, rfl, fun n => ?_⟩
    rcases n with _ | _ | n
    · rfl
    · rfl
    · rw [List.take_of_length_le (by simp [obstructed])]
      rfl
  obtain ⟨⟨g, mem, covers⟩, iff⟩ := kept_left_iff isTree_empty plain kept (.refl _) [] _
  refine ⟨kept, fun left => ?_⟩
  obtain ⟨earlier, q, recursive, later, split, releases, -⟩ := iff.mp left g mem covers
  -- The only deletion is below the scheduled path.
  have scheduled : g = ["a"] := List.mem_singleton.mp mem
  subst scheduled
  have deletion : .delete q recursive ∈ obstructed ["a", "b"] true := by
    rw [split]
    exact List.mem_append_right _ List.mem_cons_self
  simp only [obstructed, List.mem_cons, reduceCtorEq, Call.delete.injEq, List.not_mem_nil, or_false,
    false_or] at deletion
  obtain ⟨rfl, rfl⟩ := deletion
  exact absurd releases.2 (by decide)

/-- The folder above the one with the file cannot be deleted for what is in it, and is left.  And a
folder is left that was made behind double dots, since the path on the schedule is not above it. -/
theorem kept_left_obstructed :
    (Kept [] ⟨.on .empty, []⟩ [] ⟨"file", "", ["a", "b"]⟩ .temporary (obstructed ["a"] false) ["a"] ∧
      (giveUp [] (run [] ⟨.on .empty, []⟩ ([] ++ .create ⟨"file", "", ["a", "b"]⟩ .temporary ::
        obstructed ["a"] false))).2.outside.disk.hasFolder ["a"] = true) ∧
    Kept [] ⟨.on .empty, []⟩ [] ⟨"file", "", ["a", "..", "b"]⟩ .temporary [] ["b"] ∧
      (giveUp [] (run [] ⟨.on .empty, []⟩ ([] ++ .create ⟨"file", "", ["a", "..", "b"]⟩ .temporary ::
        []))).2.outside.disk.hasFolder ["b"] = true := by
  refine ⟨⟨⟨rfl, rfl, rfl, fun n => ?_⟩, rfl⟩, ⟨rfl, rfl, rfl, fun n => ?_⟩, rfl⟩
  · rcases n with _ | _ | n
    · rfl
    · rfl
    · rw [List.take_of_length_le (by simp [obstructed])]
      rfl
  · rw [List.take_nil]
    rfl

end LocalStorage

end QuerySession
