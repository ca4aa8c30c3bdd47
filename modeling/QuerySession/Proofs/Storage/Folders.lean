import QuerySession.Proofs.Storage.Paths

/-!
# Making folders

What it does to a disk to make a folder with the missing ones above it, and to give folders other
permission bits.

## Main Results

* `Disk.makeFolders_grown` — only folders appear, and only where the path leads along
* `Disk.IsTree.makeFolders_of_clear` — no file stands in the way: the folder is there afterwards
* `LocalStorage.applyModes_remoded`, `LocalStorage.applyModes_ok_iff` — permission bits

## Implementation Notes

Folders are tried from the deepest one up, until one can be made, and then made from there down.  What
is made is known for all paths, along the list of paths that are tried.  That it succeeds is shown for
ordinary names only: then the list is a `ladder`, and the induction is on its last name.
-/

namespace QuerySession

namespace Disk

variable {d d' : Disk} {names place : List String} {name : String}

/-- A place that some of the paths may denote: of a path with double dots nothing is known. -/
def Denoted (paths : List (List String)) (place : List String) : Prop :=
  ∃ path ∈ paths, ".." ∉ path → place = withoutDots path

theorem Denoted.mono {paths more : List (List String)} (sub : ∀ path ∈ paths, path ∈ more)
    (h : Denoted paths place) : Denoted more place :=
  h.imp fun path both => ⟨sub path both.1, both.2⟩

/-! ## One folder -/

/-- The place of a path's last name, which is none of dots and not too long, is in a folder. -/
theorem locateNew_ok (h : d.locateNew names = .ok place) :
    refusal? names = none ∧ ∃ parent last, names = names.dropLast ++ [last] ∧
      (isDot last = false ∧ last ≠ ".." ∧ isTooLong last = false) ∧
      d.walk [] names.dropLast = .ok parent ∧ d.hasFolder parent = true ∧
        place = parent ++ [last] := by
  unfold locateNew at h
  split at h
  · cases h
  · cases h
  · rename_i last allowed last_eq
    obtain ⟨before, names_eq⟩ := List.getLast?_eq_some_iff.mp last_eq
    obtain ⟨parent, way, h⟩ := bind_eq_ok_iff.mp h
    split at h
    · rename_i mode found
      split at h
      · cases h
      · rename_i no_dots
        split at h
        · cases h
        · rename_i short
          cases h
          obtain ⟨dot, name_ne⟩ := not_or.mp no_dots
          refine ⟨allowed, parent, last, ?_, ⟨?_, name_ne, ?_⟩, way, hasFolder_of_find? found, rfl⟩
          · rw [names_eq, List.dropLast_concat]
          · simpa using dot
          · simpa using short
    · cases h
    · cases h

/-- A folder that was made stands in a folder, where nothing stood. -/
theorem makeFolder_grown (h : d.makeFolder names = .ok d') : Grown (Denoted [names]) d d' := by
  obtain ⟨place, located, h⟩ := bind_eq_ok_iff.mp h
  obtain ⟨-, parent, last, split_eq, ⟨dot, -⟩, way, folder, rfl⟩ := locateNew_ok located
  split at h
  · cases h
  · rename_i free
    cases h
    have free : d.find? (parent ++ [last]) = none := by simpa using free
    have made := grown_put folder free usualMode
    refine made.mono fun place here => ⟨names, List.mem_cons_self, fun plain => ?_⟩
    have above : ".." ∉ names.dropLast := fun mem =>
      plain ((List.dropLast_prefix names).subset mem)
    have parent_eq : parent = withoutDots names.dropLast := (walk_ok above way).1
    have last_eq : parent ++ withoutDots [last] = parent ++ [last] ++ withoutDots [] :=
      append_withoutDots_cons dot parent
    rw [here, split_eq, withoutDots_append, ← parent_eq, last_eq]
    exact (List.append_nil _).symm

/-- Making a folder in a place that can be reached. -/
theorem IsTree.makeFolder_concat (tree : d.IsTree) (ordinary : Ordinary (names ++ [name]))
    (allowed : refusal? (names ++ [name]) = none) (clear : d.Clear names) :
    d.makeFolder (names ++ [name]) =
      if d.find? names = none then .error .notFound
      else if (d.find? (names ++ [name])).isSome then .error .taken
      else .ok (d.put (names ++ [name]) (.folder usualMode)) := by
  obtain ⟨-, dot, name_ne, short, -, -⟩ :=
    isOrdinary_iff.mp (ordinary name (List.mem_append_right _ List.mem_cons_self))
  have way := tree.walk_of_clear (ordinary.of_above (List.prefix_append ..)) clear
  unfold makeFolder locateNew
  rw [allowed, List.getLast?_concat]
  simp only [List.dropLast_concat, way]
  cases found : d.find? names with
  | none => rfl
  | some entry =>
    have folder := clear names List.prefix_rfl (by rw [found]; rfl)
    cases entry with
    | file => simp [hasFolder_eq_false_of_file found] at folder
    | folder mode => simp [bind, Except.bind, found, dot, name_ne, short]

/-- A path that leads to a folder denotes one. -/
theorem IsTree.denotesFolder (tree : d.IsTree) (ordinary : Ordinary names)
    (allowed : refusal? names = none) (folder : d.hasFolder names = true) :
    d.denotesFolder names = true := by
  obtain ⟨mode, found⟩ := hasFolder_iff.mp folder
  rw [Disk.denotesFolder, tree.stat_of_find? ordinary allowed found]
  rfl

/-! ## A folder and those above it -/

theorem climb_grown {paths missing : List (List String)} (h : d.climb paths = .ok (missing, d')) :
    (∀ path ∈ missing, path ∈ paths) ∧ Grown (Denoted paths) d d' := by
  induction paths generalizing missing with
  | nil =>
    cases h
    exact ⟨fun _ => id, .refl d⟩
  | cons path above ih =>
    rw [climb] at h
    split at h
    · rename_i made
      cases h
      refine ⟨by simp, (makeFolder_grown made).mono fun _ => Denoted.mono ?_⟩
      simp
    · cases higher : d.climb above with
      | error fault => simp [higher, bind, Except.bind] at h
      | ok result =>
        obtain ⟨left, grown⟩ := result
        simp only [higher, bind, Except.bind] at h
        cases h
        obtain ⟨sub, rest⟩ := ih higher
        exact ⟨fun q mem => List.mem_cons.mpr ((List.mem_cons.mp mem).imp_right (sub q)),
          rest.mono fun _ => Denoted.mono fun _ => List.mem_cons_of_mem _⟩
    · split at h
      · cases h
        exact ⟨by simp, .refl d⟩
      · cases h
    · cases h

theorem descend_grown (d : Disk) (paths : List (List String)) :
    Grown (Denoted paths) d (d.descend paths).2 := by
  induction paths with
  | nil => exact .refl d
  | cons path above ih =>
    have higher : Grown (Denoted (path :: above)) d (d.descend above).2 :=
      ih.mono fun _ => Denoted.mono fun _ => List.mem_cons_of_mem _
    rw [descend]
    split
    · rename_i eq
      rwa [eq] at higher
    · rename_i eq
      rw [eq] at higher
      split
      · rename_i made
        refine higher.trans ((makeFolder_grown made).mono fun _ => Denoted.mono ?_)
        simp
      · split <;> exact higher
      · exact higher

/-- A path of ordinary names and those above it, the longest first. -/
def ladder (names : List String) : List (List String) :=
  (List.range names.length).map fun i => names.take (names.length - i)

theorem ladder_concat (names : List String) (name : String) :
    ladder (names ++ [name]) = (names ++ [name]) :: ladder names := by
  unfold ladder
  rw [List.length_append, List.length_singleton, List.range_succ_eq_map, List.map_cons,
    List.map_map]
  congr 1
  · rw [Nat.sub_zero, List.take_of_length_le (by simp)]
  · refine List.map_congr_left fun i _ => ?_
    have shorter : names.length + 1 - (i + 1) ≤ names.length := by omega
    show (names ++ [name]).take (names.length + 1 - (i + 1)) = _
    rw [List.take_append_of_le_length shorter, Nat.add_sub_add_right]

theorem prefix_of_mem_ladder {path : List String} (mem : path ∈ ladder names) : path <+: names := by
  obtain ⟨i, -, rfl⟩ := List.mem_map.mp mem
  exact List.take_prefix ..

theorem fold_append_singleton {α : Type} (n : Nat) (f : Nat → α) (l : List α) :
    n.fold (fun i _ acc => acc ++ [f i]) l = l ++ (List.range n).map f := by
  induction n with
  | zero => simp
  | succ n ih => rw [Nat.fold_succ, ih, List.range_succ, List.map_append, List.append_assoc]; rfl

/-- The paths that are tried. -/
theorem ancestors_eq (names : List String) : ancestors names =
    if withoutDots names = [] then [] else names :: ladder (withoutDots names).dropLast := by
  unfold ancestors
  simp only [fold_append_singleton, List.nil_append]
  rfl

theorem ancestors_of_ordinary (ordinary : Ordinary names) : ancestors names = ladder names := by
  rw [ancestors_eq, ordinary.withoutDots_eq]
  cases names using List.reverseRecOn with
  | nil => rfl
  | append_singleton names name =>
    rw [if_neg (by simp), List.dropLast_concat, ladder_concat]

/-- Nothing happens to a disk but that folders are made, where the path leads along. -/
theorem makeFolders_grown (d : Disk) (names : List String) :
    Grown (fun place => ".." ∉ names → place <+: withoutDots names) d (d.makeFolders names).2 := by
  have along : ∀ place, Denoted (ancestors names) place → ".." ∉ names →
      place <+: withoutDots names := by
    rintro place ⟨path, mem, denoted⟩ plain
    rw [ancestors_eq] at mem
    split at mem
    · cases mem
    · rcases List.mem_cons.mp mem with rfl | higher
      · exact (denoted plain) ▸ List.prefix_rfl
      · have above := (prefix_of_mem_ladder higher).trans (List.dropLast_prefix _)
        have bare : withoutDots path = path := List.filter_eq_self.mpr fun name inside =>
          (List.mem_filter.mp (above.subset inside)).2
        rw [denoted fun inside => not_mem_withoutDots plain (above.subset inside), bare]
        exact above
  unfold makeFolders
  split
  · exact .refl d
  · rename_i missing grown climbed
    obtain ⟨sub, first⟩ := climb_grown climbed
    refine (first.trans ((descend_grown grown missing).mono fun _ => Denoted.mono sub)).mono along

/-- No file stands in the way along a path of ordinary names: on the way up some folder is there or
can be made, and on the way down all others are made. -/
theorem IsTree.climb_of_clear (tree : d.IsTree) (ordinary : Ordinary names)
    (allowed : refusal? names = none) (clear : d.Clear names) :
    ∃ missing d', d.climb (ladder names) = .ok (missing, d') ∧
      (d'.descend missing).1 = .ok () ∧ (d'.descend missing).2.hasFolder names = true := by
  induction names using List.reverseRecOn with
  | nil => exact ⟨[], d, rfl, rfl, rfl⟩
  | append_singleton names name ih =>
    have above : names <+: names ++ [name] := List.prefix_append ..
    have attempt := tree.makeFolder_concat ordinary allowed (clear.of_above above)
    rw [ladder_concat, climb, attempt]
    by_cases nothing : d.find? names = none
    · -- The folder above is missing, and is made first.
      rw [if_pos nothing]
      obtain ⟨missing, d', climbed, done, folder⟩ :=
        ih (ordinary.of_above above) (refusal?_of_above above allowed) (clear.of_above above)
      refine ⟨(names ++ [name]) :: missing, d', ?_, ?_⟩
      · simp [climbed, bind, Except.bind]
      · obtain ⟨sub, first⟩ := climb_grown climbed
        have grown := first.trans ((descend_grown d' missing).mono fun _ => Denoted.mono sub)
        have still : (d'.descend missing).2.find? (names ++ [name]) = none := by
          rw [grown.find?_eq, tree.find?_eq_none above nothing]
          -- The paths made so far are shorter than this one.
          rintro ⟨path, mem, denoted⟩
          have shorter := prefix_of_mem_ladder mem
          have same := denoted (ordinary.of_above (shorter.trans above)).plain
          rw [(ordinary.of_above (shorter.trans above)).withoutDots_eq] at same
          have lengths := shorter.length_le
          rw [← same, List.length_append, List.length_singleton] at lengths
          omega
        have last := (grown.tree tree).makeFolder_concat ordinary allowed
          ((grown.tree tree).clear folder)
        have there := Option.isSome_iff_ne_none.mp (isSome_of_hasFolder folder)
        rw [if_neg there, still] at last
        have result : d'.descend missing = (.ok (), (d'.descend missing).2) :=
          Prod.ext done rfl
        have whole : d'.descend ((names ++ [name]) :: missing) =
            (.ok (), (d'.descend missing).2.put (names ++ [name]) (.folder usualMode)) := by
          rw [descend, result]
          simp only [last, Option.isSome_none, Bool.false_eq_true, if_false]
        rw [whole]
        refine ⟨rfl, hasFolder_iff.mpr ⟨usualMode, ?_⟩⟩
        rw [find?_put_of_ne (by simp), if_pos rfl]
    · rw [if_neg nothing]
      cases found : d.find? (names ++ [name]) with
      | some entry =>
        have folder := clear _ List.prefix_rfl (by rw [found]; rfl)
        refine ⟨[], d, ?_, rfl, folder⟩
        simp [tree.denotesFolder ordinary allowed folder]
      | none =>
        refine ⟨[], d.put (names ++ [name]) (.folder usualMode), rfl, rfl, ?_⟩
        refine hasFolder_iff.mpr ⟨usualMode, ?_⟩
        exact (find?_put_of_ne (by simp) _ _).trans (if_pos rfl)

/-- No file stands in the way: the folder is there afterwards. -/
theorem IsTree.makeFolders_of_clear (tree : d.IsTree) (ordinary : Ordinary names)
    (allowed : refusal? names = none) (clear : d.Clear names) :
    (d.makeFolders names).1 = .ok () ∧ (d.makeFolders names).2.hasFolder names = true := by
  obtain ⟨missing, d', climbed, done, folder⟩ := tree.climb_of_clear ordinary allowed clear
  rw [makeFolders, ancestors_of_ordinary ordinary, climbed]
  exact ⟨done, folder⟩

/-- A file stands at the end of a path: nothing is made. -/
theorem IsTree.makeFolders_of_file (tree : d.IsTree) (ordinary : Ordinary names)
    (allowed : refusal? names = none) {bytes : List UInt8}
    (file : d.find? names = some (.file bytes)) :
    d.makeFolders names = (.error .taken, d) := by
  cases names using List.reverseRecOn with
  | nil => cases file
  | append_singleton names name =>
    have there : (d.find? (names ++ [name])).isSome = true := by rw [file]; rfl
    have parent := tree names name there
    have attempt := tree.makeFolder_concat ordinary allowed (tree.clear parent)
    rw [if_neg (Option.isSome_iff_ne_none.mp (isSome_of_hasFolder parent)), if_pos there] at attempt
    have no_folder : d.denotesFolder (names ++ [name]) = false := by
      rw [Disk.denotesFolder, tree.stat_of_find? ordinary allowed file]
      rfl
    rw [makeFolders, ancestors_of_ordinary ordinary, ladder_concat, climb, attempt]
    simp [no_folder]

/-! ## Permission bits -/

theorem setMode_remoded {mode : Nat} (h : d.setMode names mode = .ok d') :
    Remoded (Denoted [names]) d d' := by
  obtain ⟨place, place_eq, h⟩ := bind_eq_ok_iff.mp h
  split at h
  · rename_i old found
    cases h
    exact (remoded_put (hasFolder_of_find? found) _).mono fun q here =>
      ⟨names, List.mem_cons_self, fun plain => here.trans (eq_withoutDots_of_locate plain place_eq)⟩
  · cases h
    exact .refl d
  · cases h

/-- The permission bits of a path can be set if something is there. -/
theorem setMode_ok_iff (mode : Nat) : (∃ d', d.setMode names mode = .ok d') ↔
    ∃ entry, d.stat names = .ok entry := by
  simp only [setMode, stat_ok_iff, bind_eq_ok_iff]
  rw [exists_comm, exists_comm (p := fun entry place => d.locate names = .ok place ∧ _)]
  refine exists_congr fun place => ?_
  rw [exists_and_left, exists_and_left]
  refine and_congr_right fun _ => ?_
  cases found : d.find? place with
  | none => simp
  | some entry => cases entry <;> simp

/-- Ways do not depend on permission bits. -/
theorem Remoded.walk {touched : List String → Prop} (remoded : Remoded touched d d')
    (here names : List String) : d'.walk here names = d.walk here names := by
  induction names generalizing here with
  | nil => rfl
  | cons name names ih =>
    have free : (d'.find? (here ++ [name])).isNone = (d.find? (here ++ [name])).isNone := by
      rw [← Option.not_isSome, ← Option.not_isSome, remoded.isSome]
    have folder := remoded.hasFolder here
    have there := remoded.isSome here
    simp only [Disk.walk, ih, free]
    cases found : d.find? here with
    | none =>
      rw [found, Option.isSome_none, Option.isSome_eq_false_iff, Option.isNone_iff_eq_none]
        at there
      rw [there]
    | some entry =>
      rw [found] at there
      obtain ⟨entry', found'⟩ := Option.isSome_iff_exists.mp there
      rw [Disk.hasFolder, Disk.hasFolder, found, found'] at folder
      rw [found']
      cases entry <;> cases entry' <;> first | rfl | cases folder

theorem Remoded.stat_ok_iff {touched : List String → Prop} (remoded : Remoded touched d d')
    (names : List String) :
    (∃ entry, d'.stat names = .ok entry) ↔ ∃ entry, d.stat names = .ok entry := by
  have same : d'.locate names = d.locate names := by
    simp only [locate, remoded.walk]
  have there (place : List String) :
      (∃ entry, d'.find? place = some entry) ↔ ∃ entry, d.find? place = some entry := by
    rw [← Option.isSome_iff_exists, ← Option.isSome_iff_exists, remoded.isSome]
  simp only [Disk.stat_ok_iff, same]
  constructor
  · rintro ⟨entry, place, at_, found⟩
    obtain ⟨entry', found'⟩ := (there place).mp ⟨entry, found⟩
    exact ⟨entry', place, at_, found'⟩
  · rintro ⟨entry, place, at_, found⟩
    obtain ⟨entry', found'⟩ := (there place).mpr ⟨entry, found⟩
    exact ⟨entry', place, at_, found'⟩

end Disk

namespace LocalStorage

open Disk

theorem applyModes_remoded (mode : Nat) (d : Disk) (paths : List (List String)) :
    Remoded (Denoted paths) d (applyModes mode d paths).2 := by
  induction paths with
  | nil => exact .refl d
  | cons path above ih =>
    have higher : Remoded (Denoted (path :: above)) d (applyModes mode d above).2 :=
      ih.mono fun _ => Denoted.mono fun _ => List.mem_cons_of_mem _
    rw [applyModes]
    split
    · rename_i eq
      rwa [eq] at higher
    · rename_i eq
      rw [eq] at higher
      split
      · rename_i set
        refine higher.trans ((setMode_remoded set).mono fun _ => Denoted.mono ?_)
        simp
      · exact higher

/-- The permission bits can be set if there is something at all the paths. -/
theorem applyModes_ok_iff (mode : Nat) (d : Disk) (paths : List (List String)) :
    (applyModes mode d paths).1 = .ok () ↔ ∀ path ∈ paths, ∃ entry, d.stat path = .ok entry := by
  induction paths with
  | nil => simp [applyModes]
  | cons path above ih =>
    have same := (applyModes_remoded mode d above).stat_ok_iff path
    rw [List.forall_mem_cons, ← ih, ← same, ← setMode_ok_iff mode, applyModes]
    cases higher : applyModes mode d above with
    | mk result d' =>
      cases result with
      | error e => simp
      | ok _ =>
        cases set : d'.setMode path mode with
        | error fault => simp [set]
        | ok d'' => simp [set]

end LocalStorage

end QuerySession
