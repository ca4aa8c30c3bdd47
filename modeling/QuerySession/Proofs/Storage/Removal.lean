import QuerySession.Proofs.Storage.Creation

/-!
# Deletions on the local storage, and its end

What a deletion does to the disk and to the schedule, and what is left of the disk when the scheduled
folders are removed.

## Main Definitions

* `LocalStorage.deleted` — the outcome of a deletion, without what it reports
* `LocalStorage.Deletion` — what a deletion does to the disk, in cases
* `LocalStorage.sweep` — a disk after the removal of some paths, one after the other

## Main Results

* `LocalStorage.deleteAt_deletion` — every deletion is one of the cases
* `LocalStorage.find?_sweep` — what is left when paths were removed, in any order
* `LocalStorage.giveUp_outside` — the storage when it was given up
-/

namespace QuerySession

namespace LocalStorage

open Disk

variable {s : LocalStorage} {d d' : Disk} {p : StoragePath} {names g place : List String}
  {recursive : Bool} {result : Except Fault Bool}

/-! ## Deletions -/

/-- What a deletion answers, and the storage afterwards. -/
def deleted (s : LocalStorage) (p : StoragePath) (recursive : Bool) :
    Except Error Bool × LocalStorage :=
  match namesOf p with
  | .error e => (.error e, s)
  | .ok names =>
    (orRefused (deleteAt s.disk names recursive).1,
      ⟨(deleteAt s.disk names recursive).2, release s.schedule names⟩)

theorem delete_outcome (p : StoragePath) (recursive : Bool) (spans : List String)
    (scene : Scene LocalStorage) : (delete p recursive).outcome spans scene =
      ((scene.outside.deleted p recursive).1,
        ⟨(scene.outside.deleted p recursive).2, scene.events⟩) := by
  unfold delete deleted
  rw [Attempt.bind_eq, Attempt.ofExcept_eq]
  cases namesOf p <;> rfl

/-- A deletion of a path of this storage. -/
theorem deleted_of_file (s : LocalStorage) (mine : p.scheme = "file") (recursive : Bool) :
    s.deleted p recursive = (orRefused (deleteAt s.disk p.segments recursive).1,
      ⟨(deleteAt s.disk p.segments recursive).2, release s.schedule p.segments⟩) := by
  unfold deleted
  rw [namesOf_ok_iff.mpr ⟨mine, rfl⟩]

/-- A deletion of a path of another storage fails and changes nothing. -/
theorem deleted_of_foreign (s : LocalStorage) (foreign : p.scheme ≠ "file") (recursive : Bool) :
    ∃ e, s.deleted p recursive = (.error e, s) := by
  unfold deleted namesOf
  rw [if_neg foreign]
  exact ⟨_, rfl⟩

/-- What a deletion does to the disk. -/
inductive Deletion (d : Disk) (names : List String) (recursive : Bool) :
    Except Fault Bool → Disk → Prop
  | nothing (absent : d.stat names = .error .notFound) : Deletion d names recursive (.ok false) d
  | refused (fault : Fault) : Deletion d names recursive (.error fault) d
  /-- A file, an empty folder, or a folder with all that is in it. -/
  | removed (place : List String) (at_ : d.locate names = .ok place)
      (there : (d.find? place).isSome = true) (named : lastNameFault? names = none ∨
        d.hasFolder place = false)
      (whole : d.hasFolder place = true → recursive = true ∨ d.hasBelow place = false) :
      Deletion d names recursive (.ok true) (d.cut place)
  /-- The last name leads nowhere: the folder is emptied, and stays. -/
  | emptied (place : List String) (mode : Nat) (fault : Fault) (at_ : d.locate names = .ok place)
      (folder : d.find? place = some (.folder mode)) (unnamed : lastNameFault? names = some fault) :
      Deletion d names recursive (.error fault) ((d.cut place).put place (.folder mode))

/-- Every deletion is one of the cases. -/
theorem deleteAt_deletion (d : Disk) (names : List String) (recursive : Bool) :
    Deletion d names recursive (deleteAt d names recursive).1 (deleteAt d names recursive).2 := by
  unfold deleteAt
  cases stat_eq : d.stat names with
  | error fault =>
    cases fault with
    | notFound => exact .nothing stat_eq
    | _ => exact .refused _
  | ok entry =>
    obtain ⟨place, at_, found⟩ := stat_ok_iff.mp stat_eq
    cases entry with
    | file bytes =>
      simp only [removeFile, at_, bind, Except.bind, found]
      have no_folder := hasFolder_eq_false_of_file found
      exact .removed place at_ (by rw [found]; rfl) (.inr no_folder) fun folder =>
        absurd folder (by rw [no_folder]; exact Bool.false_ne_true)
    | folder mode =>
      have there : (d.find? place).isSome = true := by rw [found]; rfl
      cases recursive with
      | true =>
        simp only [if_true, removeTree, at_, found]
        cases named : lastNameFault? names with
        | none => exact .removed place at_ there (.inl named) fun _ => .inl rfl
        | some fault => exact .emptied place mode fault at_ found named
      | false =>
        simp only [Bool.false_eq_true, if_false, removeFolder, at_, found, bind, Except.bind]
        cases named : lastNameFault? names with
        | some fault => exact .refused fault
        | none =>
          cases full : d.hasBelow place with
          | true => exact .refused .notEmpty
          | false => exact .removed place at_ there (.inl named) fun _ => .inr full

/-- A deletion keeps a tree. -/
theorem Deletion.tree (h : Deletion d names recursive result d') (tree : d.IsTree) : d'.IsTree := by
  cases h with
  | nothing | refused => exact tree
  | removed place => exact tree.cut place
  | emptied place mode fault at_ folder =>
    cases place using List.reverseRecOn with
    | nil =>
      rw [put, if_pos rfl]
      exact tree.cut []
    | append_singleton place name =>
      refine (tree.cut _).put ?_ fun _ => rfl
      have apart : ¬place ++ [name] <+: place := fun below => by
        have lengths := below.length_le
        rw [List.length_append, List.length_singleton] at lengths
        omega
      rw [hasFolder, find?_cut, if_neg fun both => apart both.2]
      exact tree place name (by rw [folder]; rfl)

/-- A deletion at or above a folder that is still there afterwards has failed. -/
theorem Deletion.fails (h : Deletion d names recursive result d') (tree : d.IsTree)
    (plain : ".." ∉ names) (above : withoutDots names <+: place) (place_ne : place ≠ [])
    (before : d.hasFolder place = true) (after : d'.hasFolder place = true) :
    ∃ fault, result = .error fault := by
  cases h with
  | nothing absent =>
    have nothing := tree.find?_of_stat_notFound plain absent
    have there := tree.isSome_above above (isSome_of_hasFolder before)
    rw [nothing] at there
    cases there
  | refused fault => exact ⟨fault, rfl⟩
  | removed top at_ =>
    rw [eq_withoutDots_of_locate plain at_, hasFolder, find?_cut, if_pos ⟨place_ne, above⟩] at after
    cases after
  | emptied top mode fault => exact ⟨fault, rfl⟩

/-- A deletion along ordinary names removes what is at or below them, or nothing. -/
theorem Deletion.disk_eq (h : Deletion d names recursive result d') (ordinary : Ordinary names)
    (names_ne : names ≠ []) : d' = d ∨ d' = d.cut names := by
  cases h with
  | nothing | refused => exact .inl rfl
  | removed place at_ =>
    have place_eq := eq_withoutDots_of_locate ordinary.plain at_
    rw [ordinary.withoutDots_eq] at place_eq
    exact .inr (by rw [place_eq])
  | emptied place mode fault at_ folder unnamed =>
    rw [ordinary.lastNameFault?_eq names_ne] at unnamed
    cases unnamed

/-- A folder is deleted with all that is in it. -/
theorem deleteAt_of_hasFolder (tree : d.IsTree) (ordinary : Ordinary names)
    (allowed : refusal? names = none) (names_ne : names ≠ []) (folder : d.hasFolder names = true) :
    (deleteAt d names true).2 = d.cut names := by
  obtain ⟨mode, found⟩ := hasFolder_iff.mp folder
  have at_ := locate_ok_iff.mpr ⟨allowed, tree.walk_of_isSome ordinary (isSome_of_hasFolder folder)⟩
  have stat_eq := tree.stat_of_find? ordinary allowed found
  simp only [deleteAt, stat_eq, if_true, Disk.removeTree, at_, found,
    ordinary.lastNameFault?_eq names_ne]

/-! ## The scheduled folders are removed -/

/-- A folder can be removed along a path that can be swept, and nothing else happens to the disk. -/
theorem Sweepable.removeTree (h : Sweepable g) (tree : d.IsTree) : (d.removeTree g).2 =
    if d.hasFolder (withoutDots g) = true then d.cut (withoutDots g) else d := by
  unfold Disk.removeTree
  by_cases folder : d.hasFolder (withoutDots g) = true
  · have way := tree.walk_top h.plain h.short folder
    have at_ := locate_ok_iff.mpr ⟨h.allowed, way⟩
    obtain ⟨mode, found⟩ := hasFolder_iff.mp folder
    rw [if_pos folder, at_]
    simp only [found, h.named]
  · rw [if_neg folder]
    cases at_ : d.locate g with
    | error fault => rfl
    | ok place =>
      obtain rfl := eq_withoutDots_of_locate h.plain at_
      cases found : d.find? (withoutDots g) with
      | none => simp only [found]
      | some entry =>
        cases entry with
        | file => simp only [found]
        | folder mode => exact absurd (hasFolder_of_find? found) folder

/-- A disk after folders were removed, one after the other. -/
def sweep (d : Disk) (paths : List (List String)) : Disk :=
  paths.foldl (fun d g => (d.removeTree g).2) d

/-- **What is left when folders were removed.**  At or below those of the paths that were folders in
the beginning nothing is left, and nothing else has changed.  The order of the paths does not matter,
nor whether some are below others, and one that is no folder does not stop the others. -/
theorem find?_sweep (tree : d.IsTree) {paths : List (List String)}
    (sweepable : ∀ g ∈ paths, Sweepable g) (place : List String) :
    ((∃ g ∈ paths, d.hasFolder (withoutDots g) = true ∧ withoutDots g <+: place) →
        (sweep d paths).find? place = none) ∧
      ((¬∃ g ∈ paths, d.hasFolder (withoutDots g) = true ∧ withoutDots g <+: place) →
        (sweep d paths).find? place = d.find? place) := by
  induction paths generalizing d with
  | nil => exact ⟨fun ⟨g, mem, _⟩ => absurd mem List.not_mem_nil, fun _ => rfl⟩
  | cons h paths ih =>
    obtain ⟨h_sweepable, others⟩ := List.forall_mem_cons.mp sweepable
    have first := h_sweepable.removeTree tree
    show (_ → (sweep (d.removeTree h).2 paths).find? place = none) ∧
      (_ → (sweep (d.removeTree h).2 paths).find? place = d.find? place)
    rw [first, List.exists_mem_cons_iff]
    cases folder : d.hasFolder (withoutDots h) with
    | false =>
      simp only [Bool.false_eq_true, if_false, false_and, false_or]
      exact ih tree others
    | true =>
      simp only [if_true, true_and]
      have rest := ih (tree.cut (withoutDots h)) others
      by_cases below : withoutDots h <+: place
      · -- What is below the first path is gone at once, whatever the other paths are.
        have place_ne : place ≠ [] := by
          rintro rfl
          exact h_sweepable.ne_nil (List.prefix_nil.mp below)
        have gone : (d.cut (withoutDots h)).find? place = none := by
          rw [find?_cut, if_pos ⟨place_ne, below⟩]
        have gone_after : (sweep (d.cut (withoutDots h)) paths).find? place = none := by
          by_cases covered : ∃ g ∈ paths,
              (d.cut (withoutDots h)).hasFolder (withoutDots g) = true ∧ withoutDots g <+: place
          · exact rest.1 covered
          · exact (rest.2 covered).trans gone
        exact ⟨fun _ => gone_after, fun none_ => absurd (.inl below) none_⟩
      · -- The folders above the place are there as before.
        have same (q : List String) (above : q <+: place) :
            (d.cut (withoutDots h)).find? q = d.find? q := by
          rw [find?_cut, if_neg fun both => below (both.2.trans above)]
        have covered_iff : (∃ g ∈ paths, (d.cut (withoutDots h)).hasFolder (withoutDots g) = true ∧
            withoutDots g <+: place) ↔
              ∃ g ∈ paths, d.hasFolder (withoutDots g) = true ∧ withoutDots g <+: place := by
          refine exists_congr fun g => and_congr_right fun _ => and_congr_left fun above => ?_
          rw [hasFolder, hasFolder, same _ above]
        rw [covered_iff, same place List.prefix_rfl] at rest
        simp only [below, false_or]
        exact rest

/-- The storage when a folder was removed. -/
theorem removeScheduled_outside (g : List String) (spans : List String)
    (scene : Scene LocalStorage) : ((removeScheduled g) spans scene).2.outside =
      { scene.outside with disk := (scene.outside.disk.removeTree g).2 } := by
  unfold removeScheduled
  rw [Action.bind_eq, Action.consult_eq]
  cases scene.outside.disk.removeTree g with
  | mk result d =>
    cases result with
    | ok _ => rfl
    | error fault => cases fault <;> rfl

/-- The storage when it was given up. -/
theorem giveUp_outside (spans : List String) (scene : Scene LocalStorage) :
    (giveUp spans scene).2.outside = ⟨sweep scene.outside.disk scene.outside.schedule, []⟩ := by
  have each (paths : List (List String)) (scene : Scene LocalStorage) :
      ((paths.forM removeScheduled) spans scene).2.outside =
        { scene.outside with disk := sweep scene.outside.disk paths } := by
    induction paths generalizing scene with
    | nil => rfl
    | cons g paths ih =>
      show ((removeScheduled g >>= fun _ => paths.forM removeScheduled) spans scene).2.outside = _
      rw [Action.bind_eq, ih, removeScheduled_outside]
      rfl
  unfold giveUp
  rw [Action.bind_eq, each]
  rfl

end LocalStorage

end QuerySession
