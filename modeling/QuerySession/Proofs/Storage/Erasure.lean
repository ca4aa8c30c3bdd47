import QuerySession.Proofs.Storage.Effect
import QuerySession.Proofs.Storage.Removal

/-!
# The exact effect of a deletion

A deletion along ordinary names removes a file, an empty folder, or a folder with all that is in it if
it is told to.  Then nothing is left at or below the path, and whatever is elsewhere has stayed; a
deletion that answers otherwise has not touched the disk.  Whatever the answer, nothing at or below the
path is scheduled any more.  Both are by whole names: `a/bc` is not below `a/b`.

## Main Definitions

* `Disk.Removable` — something stands at a place and may be removed
* `LocalStorage.Erased` — the outcomes of a deletion along ordinary names
* `LocalStorage.Erasure` — what is promised of a deletion

## Main Results

* `LocalStorage.deleteAt_erased` — every deletion along ordinary names has one of the outcomes
* `LocalStorage.delete_effect` — the promise is kept
* `LocalStorage.delete_overlong` — a deletion that fails although nothing is there, nor a file above

## Implementation Notes

Each outcome comes with what was found on the disk (`Erased`).  No two of them can be found on a disk
that is a tree, so the outcome can be told from the disk, and the disk from the outcome.
-/

namespace QuerySession

namespace Disk

variable {d : Disk} {names place : List String} {bytes : List UInt8} {recursive : Bool}

/-- A file above a place is in the way to it. -/
theorem IsTree.walk_of_file_above (tree : d.IsTree) (ordinary : Ordinary names)
    (above : place <+: names) (apart : place ≠ names) (file : d.find? place = some (.file bytes)) :
    d.walk [] names = .error .notFolder := by
  obtain ⟨rest, rfl⟩ := above
  cases rest with
  | nil => simp at apart
  | cons name rest =>
    have arrived := tree.walk_of_isSome (ordinary.of_above (List.prefix_append ..))
      (by rw [file]; rfl)
    rw [walk_append, arrived]
    show d.walk place (name :: rest) = _
    simp only [walk, file]

/-- A file above a place: nothing stands there. -/
theorem IsTree.find?_of_file_above (tree : d.IsTree) (above : place <+: names)
    (apart : place ≠ names) (file : d.find? place = some (.file bytes)) : d.find? names = none := by
  by_contra there
  have folder := tree.hasFolder_above above apart (Option.isSome_iff_ne_none.mpr there)
  rw [hasFolder_eq_false_of_file file] at folder
  cases folder

/-- Along a path there is nothing but folders, or a file. -/
theorem clear_or_file (d : Disk) (names : List String) :
    d.Clear names ∨ ∃ place bytes, place <+: names ∧ d.find? place = some (.file bytes) := by
  by_cases blocked : ∃ place bytes, place <+: names ∧ d.find? place = some (.file bytes)
  · exact .inr blocked
  · exact .inl (LocalStorage.clear_iff.mpr fun place above bytes file =>
      blocked ⟨place, bytes, above, file⟩)

/-- Something stands at a place and may be removed: a file, an empty folder, or any folder if all that
is in it is to go as well. -/
def Removable (d : Disk) (names : List String) (recursive : Bool) : Prop :=
  (∃ bytes, d.find? names = some (.file bytes)) ∨ d.hasFolder names = true ∧
    (recursive = true ∨ ∀ place, names <+: place → place ≠ names → d.find? place = none)

/-- There is nothing below a place. -/
theorem hasBelow_eq_false_iff : d.hasBelow names = false ↔
    ∀ place, names <+: place → place ≠ names → d.find? place = none := by
  rw [← Bool.not_eq_true, hasBelow_iff, not_exists]
  refine forall_congr' fun place => ?_
  rw [not_and, not_and, Bool.not_eq_true, Option.isSome_eq_false_iff, Option.isNone_iff_eq_none,
    ne_comm]

/-- What may be removed is there. -/
theorem Removable.find?_ne_none (removable : d.Removable names recursive) :
    d.find? names ≠ none := by
  rcases removable with ⟨bytes, file⟩ | ⟨folder, -⟩
  · simp [file]
  · exact Option.isSome_iff_ne_none.mp (isSome_of_hasFolder folder)

end Disk

namespace LocalStorage

open Disk

variable {s : LocalStorage} {d d' : Disk} {p : StoragePath} {names place : List String}
  {recursive : Bool} {result : Except Fault Bool}

/-! ## Outcomes -/

/-- The outcomes of a deletion along ordinary names, each with what was found. -/
inductive Erased (d : Disk) (names : List String) (recursive : Bool) :
    Except Fault Bool → Disk → Prop
  | overlong (long : ¬pathSize names < 4096) : Erased d names recursive (.error .nameTooLong) d
  | removed (short : pathSize names < 4096) (removable : d.Removable names recursive) :
      Erased d names recursive (.ok true) (d.cut names)
  | full (unfit : ¬d.Removable names recursive) (there : d.find? names ≠ none) :
      Erased d names recursive (.error .notEmpty) d
  | nothing (short : pathSize names < 4096) (free : d.find? names = none) (clear : d.Clear names) :
      Erased d names recursive (.ok false) d
  | blocked (place : List String) (bytes : List UInt8) (above : place <+: names)
      (apart : place ≠ names) (file : d.find? place = some (.file bytes)) :
      Erased d names recursive (.error .notFolder) d

/-- A deletion along a path that is too long for the operating system. -/
theorem deleteAt_of_overlong (ordinary : Ordinary names) (long : ¬pathSize names < 4096)
    (d : Disk) (recursive : Bool) : deleteAt d names recursive = (.error .nameTooLong, d) := by
  have seen : d.stat names = .error .nameTooLong := by
    rw [stat, locate, ordinary.refusal?_eq, if_neg long]
    rfl
  simp only [deleteAt, seen]

/-- A deletion of a file. -/
theorem deleteAt_of_file (tree : d.IsTree) (ordinary : Ordinary names)
    (allowed : refusal? names = none) {bytes : List UInt8}
    (file : d.find? names = some (.file bytes)) (recursive : Bool) :
    deleteAt d names recursive = (.ok true, d.cut names) := by
  have stat_eq := tree.stat_of_find? ordinary allowed file
  have at_ := locate_ok_iff.mpr ⟨allowed, tree.walk_of_isSome ordinary (by rw [file]; rfl)⟩
  simp only [deleteAt, stat_eq, removeFile, at_, bind, Except.bind, file]

/-- A deletion of a folder: it goes as a whole, or it must be empty. -/
theorem deleteAt_of_folder (tree : d.IsTree) (ordinary : Ordinary names)
    (allowed : refusal? names = none) (names_ne : names ≠ []) (folder : d.hasFolder names = true)
    (recursive : Bool) : deleteAt d names recursive =
      if recursive = true ∨ d.hasBelow names = false then (.ok true, d.cut names)
      else (.error .notEmpty, d) := by
  obtain ⟨mode, found⟩ := hasFolder_iff.mp folder
  have stat_eq := tree.stat_of_find? ordinary allowed found
  have at_ := locate_ok_iff.mpr ⟨allowed, tree.walk_of_isSome ordinary (isSome_of_hasFolder folder)⟩
  have named := ordinary.lastNameFault?_eq names_ne
  cases recursive with
  | true =>
    simp only [deleteAt, stat_eq, if_true, removeTree, at_, found, named, true_or]
  | false =>
    simp only [deleteAt, stat_eq, Bool.false_eq_true, if_false, removeFolder, at_, found, named,
      bind, Except.bind, false_or]
    cases d.hasBelow names <;> rfl

/-- Every deletion along ordinary names has one of the outcomes. -/
theorem deleteAt_erased (tree : d.IsTree) (ordinary : Ordinary names) (names_ne : names ≠ [])
    (recursive : Bool) :
    Erased d names recursive (deleteAt d names recursive).1 (deleteAt d names recursive).2 := by
  by_cases short : pathSize names < 4096
  case neg =>
    rw [deleteAt_of_overlong ordinary short]
    exact .overlong short
  have allowed := ordinary.refusal?_eq_none_iff.mpr short
  cases found : d.find? names with
  | some entry =>
    cases entry with
    | file bytes =>
      rw [deleteAt_of_file tree ordinary allowed found]
      exact .removed short (.inl ⟨bytes, found⟩)
    | folder mode =>
      have folder := hasFolder_of_find? found
      rw [deleteAt_of_folder tree ordinary allowed names_ne folder]
      split
      · rename_i fit
        exact .removed short (.inr ⟨folder, fit.imp_right hasBelow_eq_false_iff.mp⟩)
      · rename_i unfit
        refine .full ?_ (by simp [found])
        rintro (⟨bytes, file⟩ | ⟨-, fit⟩)
        · rw [found] at file
          cases file
        · exact unfit (fit.imp_right hasBelow_eq_false_iff.mpr)
  | none =>
    rcases clear_or_file d names with clear | ⟨place, bytes, above, file⟩
    · have seen : d.stat names = .error .notFound := by
        rw [stat, locate_of_allowed allowed, tree.walk_of_clear ordinary clear, if_pos found]
        rfl
      simp only [deleteAt, seen]
      exact .nothing short found clear
    · have apart : place ≠ names := by
        rintro rfl
        rw [found] at file
        cases file
      have seen : d.stat names = .error .notFolder := by
        rw [stat, locate_of_allowed allowed, tree.walk_of_file_above ordinary above apart file]
        rfl
      simp only [deleteAt, seen]
      exact .blocked place bytes above apart file

/-! ## What the outcomes tell -/

namespace Erased

/-- The disk has changed only if something was removed. -/
theorem disk_eq (h : Erased d names recursive result d') :
    d' = if result = .ok true then d.cut names else d := by
  cases h <;> rfl

/-- Something was removed if it was there and could be. -/
theorem removed_iff (h : Erased d names recursive result d') (tree : d.IsTree) :
    result = .ok true ↔ pathSize names < 4096 ∧ d.Removable names recursive := by
  cases h with
  | overlong long => exact iff_of_false (by simp) fun both => long both.1
  | removed short removable => exact iff_of_true rfl ⟨short, removable⟩
  | full unfit there => exact iff_of_false (by simp) fun both => unfit both.2
  | nothing short free clear => exact iff_of_false (by simp) fun both => both.2.find?_ne_none free
  | blocked place bytes above apart file =>
    exact iff_of_false (by simp) fun both =>
      both.2.find?_ne_none (tree.find?_of_file_above above apart file)

/-- There was nothing to remove if nothing was there, and no file above. -/
theorem nothing_iff (h : Erased d names recursive result d') : result = .ok false ↔
    pathSize names < 4096 ∧ d.find? names = none ∧
      ∀ place, place <+: names → ∀ bytes, d.find? place ≠ some (.file bytes) := by
  rw [← clear_iff]
  cases h with
  | overlong long => exact iff_of_false (by simp) fun all => long all.1
  | removed short removable =>
    exact iff_of_false (by simp) fun all => removable.find?_ne_none all.2.1
  | full unfit there => exact iff_of_false (by simp) fun all => there all.2.1
  | nothing short free clear => exact iff_of_true rfl ⟨short, free, clear⟩
  | blocked place bytes above apart file =>
    exact iff_of_false (by simp) fun all => clear_iff.mp all.2.2 place above bytes file

end Erased

/-! ## The schedule -/

/-- What is left on the schedule. -/
theorem mem_release_iff {schedule : List (List String)} {h : List String} (ordinary : Ordinary names) :
    h ∈ release schedule names ↔ h ∈ schedule ∧ ¬names <+: withoutDots h := by
  rw [release, List.mem_filter, isAtOrBelow, ordinary.withoutDots_eq, Bool.not_eq_true',
    ← Bool.not_eq_true, List.isPrefixOf_iff_prefix]

/-! ## The effect -/

/-- What is promised of a deletion: `result` is the answer, and `s'` the storage afterwards. -/
structure Erasure (s : LocalStorage) (p : StoragePath) (recursive : Bool)
    (result : Except Error Bool) (s' : LocalStorage) : Prop where
  /-- Something is removed if it is there and may be removed; the operating system must accept a path
  of that length. -/
  removed_iff : result = .ok true ↔
    pathSize p.segments < 4096 ∧ s.disk.Removable p.segments recursive
  /-- Then nothing is left at or below the path, and everything else has stayed as it was. -/
  disk : result = .ok true → ∀ place, s'.disk.find? place =
    if p.segments <+: place then none else s.disk.find? place
  /-- It is told that there is nothing if nothing is there, and no file above. -/
  nothing_iff : result = .ok false ↔ pathSize p.segments < 4096 ∧
    s.disk.find? p.segments = none ∧
      ∀ place, place <+: p.segments → ∀ bytes, s.disk.find? place ≠ some (.file bytes)
  /-- Unless something was removed, the disk has stayed as it was. -/
  kept : result ≠ .ok true → s'.disk = s.disk
  /-- In any case the schedule has lost what is at or below the path, and nothing else. -/
  schedule : ∀ h, h ∈ s'.schedule ↔ h ∈ s.schedule ∧ ¬p.segments <+: withoutDots h
  /-- Where a longer name stands in the place of the last one everything stays, on the disk and on the
  schedule, although the text of the path may be the beginning of another. -/
  lookalike : ∀ above last suffix more, p.segments = above ++ [last] → suffix ≠ "" →
    let beside := above ++ (last ++ suffix) :: more
    s'.disk.find? beside = s.disk.find? beside ∧
      ∀ h ∈ s.schedule, withoutDots h = beside → h ∈ s'.schedule

/-- A longer name leads elsewhere. -/
theorem not_below_lookalike {above more : List String} {last suffix : String} (longer : suffix ≠ "") :
    ¬above ++ [last] <+: above ++ (last ++ suffix) :: more := by
  rw [List.prefix_append_right_inj, List.cons_prefix_cons]
  rintro ⟨same, -⟩
  have letters := congrArg String.toList same
  rw [String.toList_append, List.self_eq_append_right] at letters
  exact longer (String.toList_eq_nil_iff.mp letters)

/-- What stands at a place after a deletion. -/
theorem Erased.find?_eq (h : Erased d names recursive result d') (names_ne : names ≠ []) :
    d'.find? place = if result = .ok true ∧ names <+: place then none else d.find? place := by
  rw [h.disk_eq]
  by_cases done : result = .ok true
  · rw [if_pos done, find?_cut]
    refine if_congr (and_congr_left fun below => ?_) rfl rfl
    refine iff_of_true ?_ done
    rintro rfl
    exact names_ne (List.prefix_nil.mp below)
  · rw [if_neg done, if_neg fun both => done both.1]

theorem orRefused_eq_ok_iff {found : Bool} : orRefused result = .ok found ↔ result = .ok found := by
  cases result <;> simp [orRefused]

theorem deleted_effect (tree : s.disk.IsTree) (mine : p.scheme = "file")
    (ordinary : Ordinary p.segments) (named : p.segments ≠ []) (recursive : Bool) :
    Erasure s p recursive (s.deleted p recursive).1 (s.deleted p recursive).2 := by
  have erased := deleteAt_erased tree ordinary named recursive
  rw [deleted_of_file s mine]
  constructor
  case removed_iff => exact orRefused_eq_ok_iff.trans (erased.removed_iff tree)
  case disk =>
    intro done place
    rw [erased.find?_eq named]
    exact if_congr (and_iff_right (orRefused_eq_ok_iff.mp done)) rfl rfl
  case nothing_iff => exact orRefused_eq_ok_iff.trans erased.nothing_iff
  case kept =>
    intro other
    exact erased.disk_eq.trans (if_neg fun done => other (orRefused_eq_ok_iff.mpr done))
  case schedule => exact fun h => mem_release_iff ordinary
  case lookalike =>
    intro above last suffix more segments longer beside
    have apart : ¬p.segments <+: beside := by
      rw [segments]
      exact not_below_lookalike longer
    refine ⟨?_, fun h mem same => ?_⟩
    · exact (erased.find?_eq named).trans (if_neg fun both => apart both.2)
    · exact (mem_release_iff ordinary).mpr ⟨mem, by rwa [same]⟩

/-- **The effect of a deletion** along ordinary names, on a disk that is a tree, whatever is scheduled:
the promise is kept. -/
theorem delete_effect (scene : Scene LocalStorage) (tree : scene.outside.disk.IsTree)
    (p : StoragePath) (mine : p.scheme = "file") (ordinary : Ordinary p.segments)
    (named : p.segments ≠ []) (recursive : Bool) (spans : List String) :
    let done := (delete p recursive).outcome spans scene
    Erasure scene.outside p recursive done.1 done.2.outside := by
  intro done
  have same : done = _ := delete_outcome p recursive spans scene
  rw [same]
  exact deleted_effect tree mine ordinary named recursive

/-- A folder that is to go. -/
def outdated : StoragePath := ⟨"file", "", ["data", "s"]⟩

/-- A folder with a file in it, and one whose name is longer; all of them are scheduled. -/
def crowded : LocalStorage where
  disk := settled.addAll [(["data", "s"], .folder 0o711), (["data", "s", "x"], .file [1]),
    (["data", "sx"], .folder 0o711)]
  schedule := [["data", "s", "x"], ["data", "sx"], ["data", ".", "s"], ["data"]]

/-- The folder is gone with the file; the one beside it stays, and is still scheduled. -/
theorem delete_effect_beside : crowded.disk.IsTree ∧ outdated.scheme = "file" ∧
    Ordinary outdated.segments ∧ outdated.segments ≠ [] ∧
      let done := (delete outdated true).outcome [] ⟨crowded, []⟩
      done.1 = .ok true ∧ done.2.outside.disk.find? ["data", "s"] = none ∧
        done.2.outside.disk.find? ["data", "s", "x"] = none ∧
          done.2.outside.disk.find? ["data", "sx"] = some (.folder 0o711) ∧
            ["data", "sx"] ∈ done.2.outside.schedule ∧
              ["data", "s", "x"] ∉ done.2.outside.schedule := by
  have tree : crowded.disk.IsTree := (isTree_empty.add _ _).addAll _
  have ordinary : Ordinary outdated.segments := by decide
  have effect := delete_effect ⟨crowded, []⟩ tree outdated rfl ordinary (by decide) true []
  have short : pathSize outdated.segments < 4096 := by decide
  have removable : crowded.disk.Removable outdated.segments true := .inr ⟨rfl, .inl rfl⟩
  have removed := effect.removed_iff.mpr ⟨short, removable⟩
  obtain ⟨beside, scheduled⟩ := effect.lookalike ["data"] "s" "x" [] rfl (by decide)
  refine ⟨tree, rfl, ordinary, by decide, removed, effect.disk removed _, effect.disk removed _,
    beside, scheduled _ (by decide) rfl, fun mem => ?_⟩
  exact ((effect.schedule _).mp mem).2 (by decide)

/-! ### A path that is too long -/

theorem ordinary_deep : Ordinary deep.segments := by
  intro name mem
  rw [List.eq_of_mem_replicate mem]
  exact isOrdinary_longName

theorem pathSize_deep : pathSize deep.segments = 4096 := by
  rw [deep, pathSize_replicate, utf8ByteSize_longName]

/-- Nothing stands at a path of ordinary names, nor a file above it; and yet it is not told that there
is nothing, since the operating system does not accept a path of that length. -/
theorem delete_overlong : Disk.empty.IsTree ∧ deep.scheme = "file" ∧ Ordinary deep.segments ∧
    deep.segments ≠ [] ∧ Disk.empty.find? deep.segments = none ∧
      (∀ place, place <+: deep.segments → ∀ bytes, Disk.empty.find? place ≠ some (.file bytes)) ∧
        ((delete deep false).outcome [] ⟨.on .empty, []⟩).1 =
          .error (.system Fault.nameTooLong.message) := by
  have long : ¬pathSize deep.segments < 4096 := by simp [pathSize_deep]
  refine ⟨isTree_empty, rfl, ordinary_deep, by simp [deep], by simp [deep, Disk.find?, Disk.empty],
    fun place _ bytes => ?_, ?_⟩
  · rw [Disk.find?]
    split <;> simp [Disk.empty]
  · rw [delete_outcome, deleted_of_file _ rfl, deleteAt_of_overlong ordinary_deep long]
    rfl

end LocalStorage

end QuerySession
