import QuerySession.Proofs.Action
import QuerySession.Proofs.Storage.Folders

/-!
# Creations on the local storage

What a creation does to the disk and to the schedule.

## Main Definitions

* `LocalStorage.created` — the outcome of a creation, without what it reports
* `LocalStorage.Sweepable` — a path that can be removed when the storage is given up
* `LocalStorage.Outermost` — the path, among those that are missing, which is put on the schedule
* `LocalStorage.Covers` — a path on the schedule is at or above a place
* `LocalStorage.Created` — what a creation does that succeeds

## Main Results

* `LocalStorage.created_ok` — a creation that succeeds
* `LocalStorage.created_error` — a creation along ordinary names that fails changes nothing
* `LocalStorage.created_left` — what can be said of all creations

## Implementation Notes

Nothing is known of paths with double dots, which may lead anywhere; `created_left` is the only result
on them.
-/

namespace QuerySession

namespace LocalStorage

open Disk

variable {s s' : LocalStorage} {d : Disk} {p : StoragePath} {strategy : FolderStrategy}
  {names g place : List String} {absent : List (List String)}

/-! ## The outcome -/

/-- What a creation answers, and the storage afterwards. -/
def created (s : LocalStorage) (p : StoragePath) (strategy : FolderStrategy) :
    Except Error Unit × LocalStorage :=
  match namesOf p with
  | .error e => (.error e, s)
  | .ok names =>
    match missing s.disk names names.length with
    | .error fault => (.error (.system fault.message), s)
    | .ok absent => s.createMissing p strategy absent

theorem create_outcome (p : StoragePath) (strategy : FolderStrategy) (spans : List String)
    (scene : Scene LocalStorage) : ∃ events, (create p strategy).outcome spans scene =
      ((scene.outside.created p strategy).1, ⟨(scene.outside.created p strategy).2, events⟩) := by
  unfold create created
  rw [Attempt.bind_eq, Attempt.ofExcept_eq]
  cases namesOf p with
  | error e => exact ⟨_, rfl⟩
  | ok names =>
    dsimp only
    rw [Attempt.bind_eq, Attempt.consult_eq]
    cases missing scene.outside.disk names names.length with
    | error fault => exact ⟨_, rfl⟩
    | ok absent =>
      dsimp only [orRefused]
      rw [Attempt.bind_eq, Attempt.consult_eq]
      cases scene.outside.createMissing p strategy absent with
      | mk result after => cases result <;> exact ⟨_, rfl⟩

/-- The names of a path are its segments, if the path is one of this storage. -/
theorem namesOf_ok_iff : namesOf p = .ok names ↔ p.scheme = "file" ∧ names = p.segments := by
  unfold namesOf
  split
  · rename_i mine
    simp [mine, eq_comm]
  · rename_i foreign
    simp [foreign]

/-! ## Which folders are missing -/

theorem isThere_true_iff : isThere d names = .ok true ↔ ∃ entry, d.stat names = .ok entry := by
  unfold isThere
  cases d.stat names with
  | ok entry => simp
  | error fault => cases fault <;> simp

theorem isThere_false_iff : isThere d names = .ok false ↔ d.stat names = .error .notFound := by
  unfold isThere
  cases d.stat names with
  | ok entry => simp
  | error fault => cases fault <;> simp

theorem isThere_top (d : Disk) : isThere d [] = .ok true := by
  refine isThere_true_iff.mpr ⟨.folder usualMode, stat_ok_iff.mpr ⟨[], ?_, rfl⟩⟩
  exact locate_ok_iff.mpr ⟨refusal?_nil, rfl⟩

/-- Something stands where a path leads that is there. -/
theorem isSome_of_isThere (plain : ".." ∉ names) (there : isThere d names = .ok true) :
    (d.find? (withoutDots names)).isSome = true := by
  obtain ⟨entry, seen⟩ := isThere_true_iff.mp there
  rw [find?_of_stat plain seen]
  rfl

/-- Nothing stands where a path leads that is missing. -/
theorem find?_of_lacks (tree : d.IsTree) (plain : ".." ∉ names)
    (lacks : isThere d names = .ok false) : d.find? (withoutDots names) = none :=
  tree.find?_of_stat_notFound plain (isThere_false_iff.mp lacks)

/-- The missing paths are those beyond some path that is there. -/
theorem missing_ok {n : Nat} (h : missing d names n = .ok absent) :
    ∃ k ≤ n, isThere d (names.take k) = .ok true ∧
      (k = n ∧ absent = [] ∨
        k < n ∧ names.take n ∈ absent ∧ absent.getLast? = some (names.take (k + 1))) ∧
        ∀ path ∈ absent, path <+: names ∧ isThere d path = .ok false := by
  induction n generalizing absent with
  | zero =>
    cases h
    exact ⟨0, Nat.le_refl 0, isThere_top d, .inl ⟨rfl, rfl⟩, by simp⟩
  | succ n ih =>
    obtain ⟨found, looked, h⟩ := bind_eq_ok_iff.mp h
    cases found with
    | true =>
      cases h
      exact ⟨n + 1, Nat.le_refl _, looked, .inl ⟨rfl, rfl⟩, by simp⟩
    | false =>
      obtain ⟨above, rest, h⟩ := bind_eq_ok_iff.mp h
      cases h
      obtain ⟨k, le, there, last, each⟩ := ih rest
      refine ⟨k, by omega, there, .inr ⟨by omega, List.mem_cons_self, ?_⟩,
        List.forall_mem_cons.mpr ⟨?_, each⟩⟩
      · rcases last with ⟨rfl, rfl⟩ | ⟨-, -, last⟩
        · rfl
        · rw [List.getLast?_cons, last]
          rfl
      · exact ⟨List.take_prefix .., looked⟩

/-! ## The path on the schedule -/

/-- A path that can be removed when the storage is given up, if there is a folder. -/
structure Sweepable (g : List String) : Prop where
  plain : ".." ∉ g
  short : ∀ name ∈ g, isTooLong name = false
  allowed : refusal? g = none
  named : lastNameFault? g = none

theorem Sweepable.ne_nil (h : Sweepable g) : withoutDots g ≠ [] := by
  have named := h.named
  intro none_left
  cases g using List.reverseRecOn with
  | nil => cases named
  | append_singleton g name =>
    rw [withoutDots_append, List.append_eq_nil_iff] at none_left
    have dot : isDot name = true := by simpa [withoutDots] using none_left.2
    simp [lastNameFault?, dot] at named

/-- The outermost of the paths above and at `names` that are missing on a disk. -/
structure Outermost (d : Disk) (names g : List String) : Prop where
  sweepable : Sweepable g
  free : d.find? (withoutDots g) = none
  covers : ∀ place, place <+: withoutDots names → d.find? place = none → withoutDots g <+: place

/-- A path that is missing, below one that is there, is the outermost, if something can stand at it. -/
theorem outermost_of_missing (tree : d.IsTree) (plain : ".." ∉ names) {k : Nat}
    (bound : k < names.length) (there : isThere d (names.take k) = .ok true)
    (lacks : isThere d (names.take (k + 1)) = .ok false)
    (short : ∀ name ∈ names.take (k + 1), isTooLong name = false)
    (allowed : refusal? (names.take (k + 1)) = none) :
    Outermost d names (names.take (k + 1)) := by
  have plain_take (n : Nat) : ".." ∉ names.take n := fun mem => plain (List.mem_of_mem_take mem)
  have stands := isSome_of_isThere (plain_take k) there
  have free := find?_of_lacks tree (plain_take (k + 1)) lacks
  have step : names.take (k + 1) = names.take k ++ [names[k]] := by
    rw [List.take_append_getElem bound]
  have last_dot : isDot names[k] = false := by
    by_contra dot
    rw [step, withoutDots_append, withoutDots_cons_of_isDot (Bool.not_eq_false _ ▸ dot)] at free
    rw [show withoutDots [] = [] from rfl, List.append_nil] at free
    rw [free] at stands
    cases stands
  refine ⟨⟨plain_take (k + 1), short, allowed, ?_⟩, free, fun place along nothing => ?_⟩
  · have last_ne : names[k] ≠ ".." := fun same => plain (same ▸ List.getElem_mem bound)
    simp only [lastNameFault?, step, List.getLast?_concat, last_dot, last_ne, Bool.false_eq_true,
      if_false]
  · -- What is above the last path that is there is there as well.
    have beyond : (withoutDots (names.take k)).length < place.length := by
      by_contra short
      have inside := List.prefix_of_prefix_length_le along
        (withoutDots_above (List.take_prefix k names)) (by omega)
      have higher := tree.isSome_above inside stands
      rw [nothing] at higher
      cases higher
    refine List.prefix_of_prefix_length_le (withoutDots_above (List.take_prefix ..)) along ?_
    rw [step, withoutDots_append, List.length_append]
    have one : (withoutDots [names[k]]).length ≤ 1 := List.length_filter_le ..
    omega

/-- A scheduled path is at or above a place. -/
def Covers (g place : List String) : Prop := withoutDots g <+: place

theorem mem_enlist {schedule : List (List String)} (mem : g ∈ enlist schedule names) :
    g ∈ schedule ∨ g = names := by
  unfold enlist at mem
  split at mem
  · exact .inl mem
  · simpa using mem

theorem mem_enlist_of_mem {schedule : List (List String)} (mem : g ∈ schedule) :
    g ∈ enlist schedule names := by
  unfold enlist
  split
  · exact mem
  · exact List.mem_append_left _ mem

/-- What a path covers is covered once the path is on the schedule. -/
theorem exists_mem_enlist {schedule : List (List String)} (covers : Covers g place) :
    ∃ h ∈ enlist schedule g, Covers h place := by
  unfold enlist
  split
  · -- The path is on it already, perhaps with other dots.
    rename_i listed
    obtain ⟨h, mem, same⟩ := List.any_eq_true.mp listed
    refine ⟨h, mem, ?_⟩
    rw [Covers, ← beq_iff_eq.mp same]
    exact covers
  · exact ⟨g, List.mem_append_right _ List.mem_cons_self, covers⟩

/-! ## Creations that succeed -/

/-- What a creation does that succeeds.  Either everything was there, or new folders stand from the
outermost missing one on along the path. -/
inductive Created (s : LocalStorage) (p : StoragePath) (strategy : FolderStrategy)
    (s' : LocalStorage) : Prop
  | found (disk : ∀ place, s'.disk.find? place = s.disk.find? place)
      (schedule : s'.schedule = s.schedule)
  | made (g : List String) (outermost : Outermost s.disk p.segments g)
      (grown : Grown (fun place => withoutDots g <+: place ∧ place <+: withoutDots p.segments)
        s.disk s'.disk)
      (stands : s'.disk.hasFolder (withoutDots g) = true)
      (schedule : s'.schedule = if strategy.deleteOnExit = true then enlist s.schedule g
        else s.schedule)

/-- What is known once the folders were found to be missing. -/
theorem createMissing_ok (h : s.createMissing p strategy absent = (.ok (), s')) :
    (∀ path ∈ absent, ∃ entry, (s.disk.makeFolders p.segments).2.stat path = .ok entry) ∧
      s'.disk = (applyModes strategy.permission (s.disk.makeFolders p.segments).2 absent).2 ∧
        (absent = [] → s'.schedule = s.schedule) ∧
          ∀ g, absent.getLast? = some g →
            s'.schedule = if strategy.deleteOnExit = true then enlist s.schedule g else s.schedule := by
  unfold createMissing at h
  split at h
  · cases h
  · rename_i d made
    rw [made, ← applyModes_ok_iff strategy.permission]
    split at h
    · cases h
    · rename_i d' set
      rw [set]
      refine ⟨rfl, ?_⟩
      split at h
      · rename_i outermost temporary last
        cases h
        refine ⟨rfl, fun nothing => ?_, fun g last' => ?_⟩
        · rw [nothing] at last
          cases last
        · cases last.symm.trans last'
          rw [if_pos temporary]
      · rename_i otherwise
        cases h
        refine ⟨rfl, fun _ => rfl, fun g last => ?_⟩
        rw [if_neg fun temporary => otherwise g temporary last]

/-- **A creation that succeeds.** -/
theorem created_ok (tree : s.disk.IsTree) (plain : ".." ∉ p.segments)
    (h : s.created p strategy = (.ok (), s')) : Created s p strategy s' := by
  unfold created at h
  split at h
  · cases h
  · rename_i names names_eq
    obtain ⟨-, rfl⟩ := namesOf_ok_iff.mp names_eq
    split at h
    · cases h
    · rename_i absent absent_eq
      obtain ⟨seen, disk, nothing_missing, something_missing⟩ := createMissing_ok h
      obtain ⟨k, le, there, last, each⟩ := missing_ok absent_eq
      have plain_of {path : List String} (along : path <+: p.segments) : ".." ∉ path :=
        fun mem => plain (along.subset mem)
      have fresh : ∀ place, Denoted absent place → s.disk.find? place = none := by
        rintro place ⟨path, mem, denoted⟩
        obtain ⟨along, lacks⟩ := each path mem
        rw [denoted (plain_of along)]
        exact find?_of_lacks tree (plain_of along) lacks
      have grown := (makeFolders_grown s.disk p.segments).remoded
        (applyModes_remoded strategy.permission (s.disk.makeFolders p.segments).2 absent) fresh
      rw [← disk] at grown
      rcases last with ⟨rfl, rfl⟩ | ⟨bound, -, last⟩
      · -- The path was there, and with it everything above it.
        refine .found (fun place => grown.find?_eq fun along => ?_) (nothing_missing rfl)
        rw [List.take_length] at there
        exact tree.isSome_above (along plain) (isSome_of_isThere plain there)
      · have mem := List.mem_of_getLast? last
        obtain ⟨along, lacks⟩ := each _ mem
        obtain ⟨entry, stat_eq⟩ := seen _ mem
        have outermost := outermost_of_missing tree plain bound there lacks
          (short_of_stat (plain_of along) stat_eq) (allowed_of_stat stat_eq)
        refine .made _ outermost ⟨grown.kept, fun q nothing here => ?_, grown.tree⟩ ?_
          (something_missing _ last)
        · obtain ⟨folder, along⟩ := grown.fresh q nothing here
          exact ⟨folder, outermost.covers q (along plain) nothing, along plain⟩
        · refine (grown.fresh _ outermost.free ?_).1
          rw [disk, (applyModes_remoded ..).isSome, find?_of_stat (plain_of along) stat_eq]
          rfl

/-! ## Creations that fail, and all creations -/

/-- A path that has a folder above the missing ones is clear. -/
theorem clear_of_missing (tree : d.IsTree) (ordinary : Ordinary names)
    (allowed : refusal? names = none) {k : Nat} (bound : k < names.length)
    (there : isThere d (names.take k) = .ok true)
    (lacks : isThere d (names.take (k + 1)) = .ok false) : d.Clear names := by
  have along (n : Nat) : names.take n <+: names := List.take_prefix ..
  have free := find?_of_lacks tree (ordinary.of_above (along _)).plain lacks
  rw [(ordinary.of_above (along _)).withoutDots_eq] at free
  intro above below isSome
  by_cases short : above.length ≤ k
  · -- Down to the last path that is there, stand folders, and this is one as well.
    have inside : above <+: names.take k := by
      refine List.prefix_of_prefix_length_le below (along k) ?_
      rw [List.length_take]
      omega
    obtain ⟨entry, stat_eq⟩ := isThere_true_iff.mp there
    have found := find?_of_stat (ordinary.of_above (along k)).plain stat_eq
    rw [(ordinary.of_above (along k)).withoutDots_eq] at found
    refine tree.hasFolder_of_hasFolder inside ?_
    cases entry with
    | folder mode => exact hasFolder_of_find? found
    | file bytes =>
      have missing := isThere_false_iff.mp lacks
      have way := tree.walk_of_isSome (ordinary.of_above (along k)) (by rw [found]; rfl)
      unfold stat at missing
      rw [locate_of_allowed (refusal?_of_above (along _) allowed), ←
        List.take_append_getElem bound, walk_append, way] at missing
      simp [Except.bind, walk, found, bind] at missing
  · have beyond : names.take (k + 1) <+: above := by
      refine List.prefix_of_prefix_length_le (along _) below ?_
      rw [List.length_take]
      omega
    rw [tree.find?_eq_none beyond free] at isSome
    cases isSome

/-- No file stands in the way: the creation does not fail. -/
theorem createMissing_of_clear (tree : s.disk.IsTree) (ordinary : Ordinary p.segments)
    (allowed : refusal? p.segments = none) (clear : s.disk.Clear p.segments)
    (strategy : FolderStrategy) (along : ∀ path ∈ absent, path <+: p.segments) :
    (s.createMissing p strategy absent).1 = .ok () := by
  obtain ⟨made, folder⟩ := tree.makeFolders_of_clear ordinary allowed clear
  have tree' := (makeFolders_grown s.disk p.segments).tree tree
  have set : (applyModes strategy.permission (s.disk.makeFolders p.segments).2 absent).1 =
      .ok () := by
    refine (applyModes_ok_iff ..).mpr fun path mem => ?_
    have above := along path mem
    obtain ⟨mode, found⟩ := hasFolder_iff.mp (tree'.hasFolder_of_hasFolder above folder)
    exact ⟨_, tree'.stat_of_find? (ordinary.of_above above) (refusal?_of_above above allowed)
      found⟩
  have made_eq : s.disk.makeFolders p.segments = (.ok (), (s.disk.makeFolders p.segments).2) :=
    Prod.ext made rfl
  have set_eq : applyModes strategy.permission (s.disk.makeFolders p.segments).2 absent =
      (.ok (), (applyModes strategy.permission (s.disk.makeFolders p.segments).2 absent).2) :=
    Prod.ext set rfl
  rw [createMissing, made_eq]
  dsimp only
  rw [set_eq]
  dsimp only
  split <;> rfl

/-- Once it is known which folders are missing, either no file is in the way, or there is one at the end
of the path. -/
theorem clear_or_file_of_missing (tree : d.IsTree) (ordinary : Ordinary names)
    (h : missing d names names.length = .ok absent) :
    refusal? names = none ∧ (∀ path ∈ absent, path <+: names) ∧
      (d.Clear names ∨ ∃ bytes, d.find? names = some (.file bytes)) := by
  obtain ⟨k, le, there, last, each⟩ := missing_ok h
  rcases last with ⟨rfl, rfl⟩ | ⟨bound, whole, last⟩
  · -- Something is there already, and only a file is an obstacle.
    rw [List.take_length] at there
    obtain ⟨entry, stat_eq⟩ := isThere_true_iff.mp there
    have found := find?_of_stat ordinary.plain stat_eq
    rw [ordinary.withoutDots_eq] at found
    refine ⟨allowed_of_stat stat_eq, fun path mem => (each path mem).1, ?_⟩
    cases entry with
    | folder mode => exact .inl (tree.clear (hasFolder_of_find? found))
    | file bytes => exact .inr ⟨bytes, found⟩
  · rw [List.take_length] at whole
    have allowed := allowed_of_stat_notFound (isThere_false_iff.mp (each _ whole).2)
    have lacks := (each _ (List.mem_of_getLast? last)).2
    exact ⟨allowed, fun path mem => (each path mem).1,
      .inl (clear_of_missing tree ordinary allowed bound there lacks)⟩

/-- A file stands at the end of the path: nothing is made. -/
theorem createMissing_of_file (tree : s.disk.IsTree) (ordinary : Ordinary p.segments)
    (allowed : refusal? p.segments = none) {bytes : List UInt8}
    (file : s.disk.find? p.segments = some (.file bytes)) (strategy : FolderStrategy)
    (absent : List (List String)) : ∃ e, s.createMissing p strategy absent = (.error e, s) := by
  rw [createMissing, tree.makeFolders_of_file ordinary allowed file]
  exact ⟨_, rfl⟩

/-- **A creation along ordinary names that fails changes nothing.** -/
theorem created_error (tree : s.disk.IsTree) (ordinary : Ordinary p.segments) {e : Error}
    (h : (s.created p strategy).1 = .error e) : (s.created p strategy).2 = s := by
  unfold created at h ⊢
  split at h
  · rfl
  · rename_i names names_eq
    obtain ⟨-, rfl⟩ := namesOf_ok_iff.mp names_eq
    split at h
    · rfl
    · rename_i absent absent_eq
      obtain ⟨allowed, along, clear | ⟨bytes, file⟩⟩ :=
        clear_or_file_of_missing tree ordinary absent_eq
      · rw [createMissing_of_clear tree ordinary allowed clear strategy along] at h
        cases h
      · obtain ⟨e, same⟩ := createMissing_of_file tree ordinary allowed file strategy absent
        exact congrArg Prod.snd same

/-- What can be said of all creations, wherever they lead. -/
theorem created_left (tree : s.disk.IsTree) (p : StoragePath) (strategy : FolderStrategy) :
    (s.created p strategy).2.disk.IsTree ∧
      ((s.created p strategy).2.schedule = s.schedule ∨
        strategy.deleteOnExit = true ∧ (s.created p strategy).1 = .ok ()) := by
  have made := (makeFolders_grown s.disk p.segments).tree tree
  unfold created
  split
  · exact ⟨tree, .inl rfl⟩
  · split
    · exact ⟨tree, .inl rfl⟩
    · rename_i absent _
      have set := (applyModes_remoded strategy.permission (s.disk.makeFolders p.segments).2
        absent).tree made
      unfold createMissing
      split
      · rename_i eq
        rw [eq] at made
        exact ⟨made, .inl rfl⟩
      · rename_i eq
        rw [eq] at set
        split
        · rename_i eq
          rw [eq] at set
          exact ⟨set, .inl rfl⟩
        · rename_i eq
          rw [eq] at set
          split
          · rename_i temporary _
            exact ⟨set, .inr ⟨temporary, rfl⟩⟩
          · exact ⟨set, .inl rfl⟩

end LocalStorage

end QuerySession
