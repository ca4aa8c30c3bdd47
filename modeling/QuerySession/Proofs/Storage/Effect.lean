import QuerySession.Proofs.Storage.Creation

/-!
# The exact effect of a creation

A creation along ordinary names succeeds unless a file is in the way, the path is not one of this
storage, or the operating system does not accept a path of that length.  Then the missing folders are
there, with the permission bits of the strategy, and nothing else on the disk has changed; if they are
not to last, the outermost of them is on the schedule.  A creation that fails changes nothing, and one
that is repeated does not either.

## Main Definitions

* `Disk.gaps`, `Disk.Topmost` — the places along a path where nothing stands, and the outermost
* `LocalStorage.Lists` — a path is on a schedule
* `LocalStorage.Effect` — what is promised of a creation

## Main Results

* `LocalStorage.create_effect` — the promise is kept
* `LocalStorage.create_overlong` — a creation along ordinary names that fails although no file is in
  the way

## Implementation Notes

New folders have the usual permission bits first, and get those of the strategy once all of them are
there.  So it suffices to know where new folders stand (`Grown`), whatever their bits are.
-/

namespace QuerySession

namespace Disk

variable {d : Disk} {names place g path : List String} {name : String}

/-! ## What is missing along a path -/

theorem mem_ladder_iff : path ∈ ladder names ↔ path ≠ [] ∧ path <+: names := by
  induction names using List.reverseRecOn with
  | nil => simp [ladder]
  | append_singleton names name ih =>
    rw [ladder_concat, List.mem_cons, ih, List.prefix_concat_iff]
    constructor
    · rintro (rfl | ⟨path_ne, above⟩)
      · exact ⟨by simp, .inl rfl⟩
      · exact ⟨path_ne, .inr above⟩
    · rintro ⟨path_ne, rfl | above⟩
      · exact .inl rfl
      · exact .inr ⟨path_ne, above⟩

/-- The places along a path where nothing stands, the longest first. -/
def gaps (d : Disk) (names : List String) : List (List String) :=
  (ladder names).filter fun path => (d.find? path).isNone

theorem mem_gaps_iff : path ∈ d.gaps names ↔ path <+: names ∧ d.find? path = none := by
  rw [gaps, List.mem_filter, mem_ladder_iff, Option.isNone_iff_eq_none]
  constructor
  · rintro ⟨⟨-, above⟩, free⟩
    exact ⟨above, free⟩
  · rintro ⟨above, free⟩
    refine ⟨⟨?_, above⟩, free⟩
    rintro rfl
    cases free

theorem gaps_concat (d : Disk) (names : List String) (name : String) :
    d.gaps (names ++ [name]) =
      if d.find? (names ++ [name]) = none then (names ++ [name]) :: d.gaps names
      else d.gaps names := by
  simp only [gaps, ladder_concat, List.filter_cons, Option.isNone_iff_eq_none]

/-- Nothing is missing along the path to a folder. -/
theorem IsTree.gaps_eq_nil (tree : d.IsTree) (there : (d.find? names).isSome = true) :
    d.gaps names = [] := by
  refine List.eq_nil_iff_forall_not_mem.mpr fun path mem => ?_
  obtain ⟨above, free⟩ := mem_gaps_iff.mp mem
  have higher := tree.isSome_above above there
  rw [free] at higher
  cases higher

/-- The outermost place along a path where nothing stands. -/
structure Topmost (d : Disk) (names g : List String) : Prop where
  along : g <+: names
  free : d.find? g = none
  above : ∀ place, place <+: names → d.find? place = none → g <+: place

theorem Topmost.concat (topmost : d.Topmost names g) (name : String) :
    d.Topmost (names ++ [name]) g where
  along := topmost.along.trans (List.prefix_append ..)
  free := topmost.free
  above place along nothing := by
    rcases List.prefix_concat_iff.mp along with rfl | inside
    · exact topmost.along.trans (List.prefix_append ..)
    · exact topmost.above place inside nothing

theorem topmost_of_getLast? (last : (d.gaps names).getLast? = some g) : d.Topmost names g := by
  induction names using List.reverseRecOn with
  | nil => cases last
  | append_singleton names name ih =>
    rw [gaps_concat] at last
    by_cases free : d.find? (names ++ [name]) = none
    · rw [if_pos free] at last
      cases rest : (d.gaps names).getLast? with
      | none =>
        -- Only the path itself is missing.
        have only := List.getLast?_eq_none_iff.mp rest
        rw [only] at last
        cases last
        refine ⟨List.prefix_rfl, free, fun place along nothing => ?_⟩
        rcases List.prefix_concat_iff.mp along with rfl | inside
        · exact List.prefix_rfl
        · have mem := mem_gaps_iff.mpr ⟨inside, nothing⟩
          rw [only] at mem
          cases mem
      | some h =>
        rw [List.getLast?_cons, rest] at last
        cases last
        exact (ih rest).concat name
    · rw [if_neg free] at last
      exact (ih last).concat name

/-! ## Permission bits -/

/-- The permission bits of a folder that can be reached are replaced. -/
theorem IsTree.setMode_of_hasFolder (tree : d.IsTree) (ordinary : Ordinary names)
    (allowed : refusal? names = none) (folder : d.hasFolder names = true) (mode : Nat) :
    d.setMode names mode = .ok (d.put names (.folder (mode % modeBits))) := by
  obtain ⟨old, found⟩ := hasFolder_iff.mp folder
  have way := tree.walk_of_isSome ordinary (isSome_of_hasFolder folder)
  rw [setMode, locate_of_allowed allowed, way]
  simp only [bind, Except.bind, found]

/-! ## Making folders -/

/-- Along ordinary names no path is refused unseen but for its length. -/
theorem Ordinary.refusal?_eq (ordinary : Ordinary names) :
    refusal? names = if pathSize names < 4096 then none else some .nameTooLong := by
  have clean : ¬names.any (fun n => n.toList.contains '\x00') = true := by
    intro dirty
    obtain ⟨name, mem, bad⟩ := List.any_eq_true.mp dirty
    rw [(isOrdinary_iff.mp (ordinary name mem)).2.2.2.2.1] at bad
    cases bad
  unfold refusal?
  rw [if_neg clean]
  by_cases short : pathSize names < 4096
  · rw [if_pos short, if_neg (by omega)]
  · rw [if_neg short, if_pos (by omega)]

theorem Ordinary.refusal?_eq_none_iff (ordinary : Ordinary names) :
    refusal? names = none ↔ pathSize names < 4096 := by
  rw [ordinary.refusal?_eq]
  split <;> simp [*]

theorem pathSize_replicate (n : Nat) (name : String) :
    pathSize (List.replicate n name) = n * (name.utf8ByteSize + 1) := by
  induction n with
  | zero => simp [pathSize]
  | succ n ih =>
    simp only [pathSize, List.replicate_succ, List.foldr_cons] at ih ⊢
    rw [ih, Nat.succ_mul]
    omega

/-- Where a path leads to a folder there is nothing to make. -/
theorem IsTree.makeFolders_of_hasFolder (tree : d.IsTree) (ordinary : Ordinary names)
    (allowed : refusal? names = none) (folder : d.hasFolder names = true) :
    d.makeFolders names = (.ok (), d) := by
  rw [makeFolders, ancestors_of_ordinary ordinary]
  cases names using List.reverseRecOn with
  | nil => rfl
  | append_singleton names name =>
    have there := isSome_of_hasFolder folder
    have parent := tree names name there
    have attempt := tree.makeFolder_concat ordinary allowed (tree.clear parent)
    rw [if_neg (Option.isSome_iff_ne_none.mp (isSome_of_hasFolder parent)), if_pos there] at attempt
    rw [ladder_concat, climb, attempt]
    simp only [tree.denotesFolder ordinary allowed folder, if_true]
    rfl

end Disk

namespace LocalStorage

open Disk

variable {s s' : LocalStorage} {d : Disk} {p : StoragePath} {strategy : FolderStrategy}
  {names g place : List String} {spans : List String} {scene : Scene LocalStorage}

/-- Folders that can be reached get their permission bits, and nothing else changes. -/
theorem applyModes_of_hasFolder (mode : Nat) (tree : d.IsTree) {paths : List (List String)}
    (each : ∀ path ∈ paths, path ≠ [] ∧ Ordinary path ∧ refusal? path = none ∧
      d.hasFolder path = true) :
    ∃ d', applyModes mode d paths = (.ok (), d') ∧ ∀ place, d'.find? place =
      if place ∈ paths then some (.folder (mode % modeBits)) else d.find? place := by
  induction paths with
  | nil => exact ⟨d, rfl, fun place => by simp⟩
  | cons path above ih =>
    obtain ⟨⟨path_ne, ordinary, allowed, folder⟩, others⟩ := List.forall_mem_cons.mp each
    obtain ⟨d', set, found⟩ := ih others
    have remoded := applyModes_remoded mode d above
    rw [set] at remoded
    rw [← remoded.hasFolder] at folder
    have last := (remoded.tree tree).setMode_of_hasFolder ordinary allowed folder mode
    refine ⟨d'.put path (.folder (mode % modeBits)), ?_, fun place => ?_⟩
    · simp only [applyModes, set, last]
    · rw [find?_put_of_ne path_ne, found place]
      by_cases here : path = place
      · simp [here]
      · have apart : place ≠ path := fun same => here same.symm
        simp [here, apart]

/-! ## Which folders are missing -/

/-- Where no file is in the way it can be told whether something is there. -/
theorem isThere_of_clear (tree : d.IsTree) (ordinary : Ordinary names)
    (allowed : refusal? names = none) (clear : d.Clear names) :
    isThere d names = .ok (d.find? names).isSome := by
  cases found : d.find? names with
  | some entry =>
    exact isThere_true_iff.mpr ⟨entry, tree.stat_of_find? ordinary allowed found⟩
  | none =>
    have way := tree.walk_of_clear ordinary clear
    rw [if_pos found] at way
    refine isThere_false_iff.mpr ?_
    rw [stat, locate_of_allowed allowed, way]
    rfl

/-- What is missing along the beginning of a path does not depend on the rest of it. -/
theorem missing_append (d : Disk) (names rest : List String) {n : Nat} (le : n ≤ names.length) :
    missing d (names ++ rest) n = missing d names n := by
  induction n with
  | zero => rfl
  | succ n ih => rw [missing, missing, List.take_append_of_le_length le, ih (by omega)]

/-- The missing folders that are found are those that are missing. -/
theorem missing_of_clear (tree : d.IsTree) (ordinary : Ordinary names)
    (allowed : refusal? names = none) (clear : d.Clear names) :
    missing d names names.length = .ok (d.gaps names) := by
  induction names using List.reverseRecOn with
  | nil => rfl
  | append_singleton names name ih =>
    have above : names <+: names ++ [name] := List.prefix_append ..
    have looked := isThere_of_clear tree ordinary allowed clear
    have rest := missing_append d names [name] (Nat.le_refl names.length)
    rw [ih (ordinary.of_above above) (refusal?_of_above above allowed) (clear.of_above above)]
      at rest
    have whole : (names ++ [name]).take (names.length + 1) = names ++ [name] :=
      List.take_of_length_le (by simp)
    rw [List.length_append, List.length_singleton, missing]
    simp only [whole, looked, rest, bind, Except.bind]
    cases found : d.find? (names ++ [name]) with
    | some entry =>
      -- Everything above is there as well.
      have nothing : d.gaps (names ++ [name]) = [] := tree.gaps_eq_nil (by rw [found]; rfl)
      rw [nothing]
      rfl
    | none =>
      rw [gaps_concat, if_pos found]
      rfl

/-! ## Schedules -/

/-- A path is on a schedule, perhaps with other dots. -/
def Lists (schedule : List (List String)) (g : List String) : Prop :=
  ∃ listed ∈ schedule, withoutDots listed = withoutDots g

/-- One path more is on the schedule. -/
theorem lists_enlist_iff {schedule : List (List String)} {h : List String} :
    Lists (enlist schedule g) h ↔ Lists schedule h ∨ withoutDots h = withoutDots g := by
  unfold enlist
  split
  · rename_i known
    obtain ⟨listed, mem, same⟩ := List.any_eq_true.mp known
    have same : withoutDots g = withoutDots listed := beq_iff_eq.mp same
    constructor
    · exact .inl
    · rintro (old | new)
      · exact old
      · exact ⟨listed, mem, (new.trans same).symm⟩
  · simp only [Lists, List.mem_append, List.mem_singleton, or_and_right, exists_or,
      exists_eq_left, eq_comm (a := withoutDots g)]

/-! ## The effect -/

/-- What is promised of a creation: `result` is the answer, and `s'` the storage afterwards. -/
structure Effect (s : LocalStorage) (p : StoragePath) (strategy : FolderStrategy)
    (result : Except Error Unit) (s' : LocalStorage) : Prop where
  /-- It succeeds unless a file is in the way, at the path or above it; the path must be one of this
  storage, and the operating system must accept one of its length. -/
  succeeds_iff : result = .ok () ↔ p.scheme = "file" ∧ pathSize p.segments < 4096 ∧
    ∀ place, place <+: p.segments → ∀ bytes, s.disk.find? place ≠ some (.file bytes)
  /-- The missing folders are there, with the permission bits of the strategy, and whatever was there
  has stayed as it was. -/
  disk : result = .ok () → ∀ place, s'.disk.find? place =
    if place <+: p.segments ∧ s.disk.find? place = none
    then some (.folder (strategy.permission % modeBits)) else s.disk.find? place
  /-- The outermost missing folder comes on the schedule, and nothing else, if the folders are not to
  last. -/
  scheduled : result = .ok () → strategy.deleteOnExit = true →
    (∃ place, place <+: p.segments ∧ s.disk.find? place = none) →
      ∃ g, s.disk.Topmost p.segments g ∧ s'.schedule = enlist s.schedule g ∧
        ∀ h, Lists s'.schedule h ↔ Lists s.schedule h ∨ withoutDots h = withoutDots g
  /-- Otherwise the schedule stays. -/
  unscheduled : result = .ok () → (strategy.deleteOnExit = false ∨
    ∀ place, place <+: p.segments → s.disk.find? place ≠ none) → s'.schedule = s.schedule
  /-- If it fails, nothing changes. -/
  refused : ∀ e, result = .error e → s' = s
  /-- If it succeeds, it can be repeated, with any strategy, and then nothing changes. -/
  again : result = .ok () → ∀ other, s'.created p other = (.ok (), s')

/-- No file is in the way along a path. -/
theorem clear_iff : d.Clear names ↔
    ∀ place, place <+: names → ∀ bytes, d.find? place ≠ some (.file bytes) := by
  refine forall₂_congr fun place above => ?_
  rw [hasFolder]
  cases found : d.find? place with
  | none => simp
  | some entry => cases entry <;> simp [Entry.isFolder]

/-- A creation succeeds only if the path is accepted and no file is in the way. -/
theorem clear_of_created (tree : s.disk.IsTree) (ordinary : Ordinary p.segments)
    (h : (s.created p strategy).1 = .ok ()) :
    p.scheme = "file" ∧ refusal? p.segments = none ∧ s.disk.Clear p.segments := by
  unfold created at h
  split at h
  · cases h
  · rename_i names names_eq
    obtain ⟨mine, rfl⟩ := namesOf_ok_iff.mp names_eq
    split at h
    · cases h
    · rename_i absent absent_eq
      obtain ⟨allowed, -, clear | ⟨bytes, file⟩⟩ := clear_or_file_of_missing tree ordinary absent_eq
      · exact ⟨mine, allowed, clear⟩
      · obtain ⟨e, same⟩ := createMissing_of_file tree ordinary allowed file strategy absent
        rw [same] at h
        cases h

/-- A path that is refused unseen. -/
theorem created_of_refused (s : LocalStorage) (mine : p.scheme = "file") {fault : Fault}
    (refused : refusal? p.segments = some fault) (strategy : FolderStrategy) :
    s.created p strategy = (.error (.system fault.message), s) := by
  have seen : s.disk.stat p.segments = .error fault := by
    rw [stat, locate, refused]
    rfl
  have looked : isThere s.disk p.segments = .error fault := by
    cases fault with
    | notFound =>
      rw [allowed_of_stat_notFound seen] at refused
      cases refused
    | _ => rw [isThere, seen]
  have absent : missing s.disk p.segments p.segments.length = .error fault := by
    cases count : p.segments.length with
    | zero =>
      rw [List.eq_nil_of_length_eq_zero count] at refused
      cases refused
    | succ n => rw [missing, List.take_of_length_le (by omega), looked]; rfl
  simp only [created, namesOf_ok_iff.mpr ⟨mine, rfl⟩, absent]

/-- What a creation does where no file is in the way. -/
theorem created_of_clear (tree : s.disk.IsTree) (mine : p.scheme = "file")
    (ordinary : Ordinary p.segments) (allowed : refusal? p.segments = none)
    (clear : s.disk.Clear p.segments) (strategy : FolderStrategy) :
    ∃ d, (∀ place, d.find? place = if place ∈ s.disk.gaps p.segments
        then some (.folder (strategy.permission % modeBits)) else s.disk.find? place) ∧
      s.created p strategy = (.ok (), ⟨d, match strategy.deleteOnExit,
          (s.disk.gaps p.segments).getLast? with
        | true, some g => enlist s.schedule g
        | _, _ => s.schedule⟩) := by
  obtain ⟨done, folder⟩ := tree.makeFolders_of_clear ordinary allowed clear
  have grown := makeFolders_grown s.disk p.segments
  have made : s.disk.makeFolders p.segments = (.ok (), (s.disk.makeFolders p.segments).2) :=
    Prod.ext done rfl
  generalize (s.disk.makeFolders p.segments).2 = between at made grown folder
  have reachable : ∀ path ∈ s.disk.gaps p.segments, path ≠ [] ∧ Ordinary path ∧
      refusal? path = none ∧ between.hasFolder path = true := by
    intro path mem
    obtain ⟨above, free⟩ := mem_gaps_iff.mp mem
    refine ⟨?_, ordinary.of_above above, refusal?_of_above above allowed,
      (grown.tree tree).hasFolder_of_hasFolder above folder⟩
    rintro rfl
    cases free
  obtain ⟨d, set, found⟩ := applyModes_of_hasFolder strategy.permission (grown.tree tree) reachable
  refine ⟨d, fun place => ?_, ?_⟩
  · rw [found place]
    split
    · rfl
    · rename_i old
      refine grown.find?_eq fun along => Option.isSome_iff_ne_none.mpr fun free => old ?_
      have above := along ordinary.plain
      rw [ordinary.withoutDots_eq] at above
      exact mem_gaps_iff.mpr ⟨above, free⟩
  · have absent := missing_of_clear tree ordinary allowed clear
    simp only [created, namesOf_ok_iff.mpr ⟨mine, rfl⟩, absent, createMissing, made, set]
    cases strategy.deleteOnExit <;> cases (s.disk.gaps p.segments).getLast? <;> rfl

/-- A creation where everything is there changes nothing. -/
theorem created_of_hasFolder (tree : s.disk.IsTree) (mine : p.scheme = "file")
    (ordinary : Ordinary p.segments) (allowed : refusal? p.segments = none)
    (folder : s.disk.hasFolder p.segments = true) (strategy : FolderStrategy) :
    s.created p strategy = (.ok (), s) := by
  have absent := missing_of_clear tree ordinary allowed (tree.clear folder)
  rw [tree.gaps_eq_nil (isSome_of_hasFolder folder)] at absent
  simp only [created, namesOf_ok_iff.mpr ⟨mine, rfl⟩, absent, createMissing,
    tree.makeFolders_of_hasFolder ordinary allowed folder, applyModes]
  cases strategy.deleteOnExit <;> rfl

theorem created_effect (tree : s.disk.IsTree) (ordinary : Ordinary p.segments)
    (strategy : FolderStrategy) :
    Effect s p strategy (s.created p strategy).1 (s.created p strategy).2 := by
  have needs (done : (s.created p strategy).1 = .ok ()) := clear_of_created tree ordinary done
  have does (done : (s.created p strategy).1 = .ok ()) :=
    created_of_clear tree (needs done).1 ordinary (needs done).2.1 (needs done).2.2 strategy
  constructor
  case succeeds_iff =>
    rw [← ordinary.refusal?_eq_none_iff, ← clear_iff]
    refine ⟨needs, fun ⟨mine, allowed, clear⟩ => ?_⟩
    obtain ⟨d, -, same⟩ := created_of_clear tree mine ordinary allowed clear strategy
    rw [same]
  case disk =>
    intro done place
    obtain ⟨d, found, same⟩ := does done
    simp only [same, found place, mem_gaps_iff]
  case scheduled =>
    rintro done temporary ⟨place, above, free⟩
    obtain ⟨d, -, same⟩ := does done
    cases last : (s.disk.gaps p.segments).getLast? with
    | none =>
      have mem := mem_gaps_iff.mpr ⟨above, free⟩
      rw [List.getLast?_eq_none_iff.mp last] at mem
      cases mem
    | some g =>
      rw [same, temporary, last]
      exact ⟨g, topmost_of_getLast? last, rfl, fun h => lists_enlist_iff⟩
  case unscheduled =>
    intro done lasting
    obtain ⟨d, -, same⟩ := does done
    rcases lasting with kept | full
    · rw [same, kept]
    · have nothing : s.disk.gaps p.segments = [] :=
        List.eq_nil_iff_forall_not_mem.mpr fun place mem =>
          full place (mem_gaps_iff.mp mem).1 (mem_gaps_iff.mp mem).2
      rw [same, nothing]
      cases strategy.deleteOnExit <;> rfl
  case refused => exact fun e failed => created_error tree ordinary failed
  case again =>
    intro done other
    have tree' := (created_left tree p strategy).1
    obtain ⟨mine, allowed, clear⟩ := needs done
    refine created_of_hasFolder tree' mine ordinary allowed ?_ other
    obtain ⟨d, found, same⟩ := does done
    rw [same, hasFolder, found]
    split
    · rfl
    · rename_i old
      refine clear _ List.prefix_rfl (Option.isSome_iff_ne_none.mpr fun free => old ?_)
      exact mem_gaps_iff.mpr ⟨List.prefix_rfl, free⟩

/-- **The effect of a creation** along ordinary names, on a disk that is a tree, whatever is scheduled:
the promise is kept. -/
theorem create_effect (scene : Scene LocalStorage) (tree : scene.outside.disk.IsTree)
    (p : StoragePath) (ordinary : Ordinary p.segments) (strategy : FolderStrategy)
    (spans : List String) :
    let done := (create p strategy).outcome spans scene
    Effect scene.outside p strategy done.1 done.2.outside := by
  intro done
  obtain ⟨events, outcome⟩ := create_outcome p strategy spans scene
  have same : done = _ := outcome
  rw [same]
  exact created_effect tree ordinary strategy

/-- A folder to be made below one that is there, in another that is missing. -/
def below : StoragePath := ⟨"file", "", ["data", "s", "x"]⟩

/-- A disk with a folder. -/
def settled : Disk := Disk.empty.add ["data"] (.folder 0o750)

/-- The missing folders have the bits that the strategy gives them, and the outer one is scheduled;
the folder that was there keeps its bits. -/
theorem create_effect_below : settled.IsTree ∧ Ordinary below.segments ∧
    let done := (create below ⟨0o70711, true⟩).outcome [] ⟨.on settled, []⟩
    done.1 = .ok () ∧ done.2.outside.disk.find? ["data"] = some (.folder 0o750) ∧
      done.2.outside.disk.find? ["data", "s"] = some (.folder 0o711) ∧
        done.2.outside.disk.find? ["data", "s", "x"] = some (.folder 0o711) ∧
          done.2.outside.schedule = [["data", "s"]] := by
  have tree : settled.IsTree := isTree_empty.add _ _
  have ordinary : Ordinary below.segments := by decide
  have effect := create_effect ⟨.on settled, []⟩ tree below ordinary ⟨0o70711, true⟩ []
  have succeeded : ((create below ⟨0o70711, true⟩).outcome [] ⟨.on settled, []⟩).1 = .ok () := rfl
  exact ⟨tree, ordinary, succeeded, effect.disk succeeded _, effect.disk succeeded _,
    effect.disk succeeded _, rfl⟩

/-- As long as a name may be. -/
def longName : String := String.ofList (List.replicate 255 'a')

theorem utf8ByteSize_longName : longName.utf8ByteSize = 255 := by decide +kernel

theorem isOrdinary_longName : isOrdinary longName = true := by
  have letters : longName.toList = List.replicate 255 'a' := String.toList_ofList
  have apart (other : String) (ne : other.toList ≠ List.replicate 255 'a') : longName ≠ other := by
    rintro rfl
    exact ne letters
  refine isOrdinary_iff.mpr ⟨apart _ (by decide), ?_, apart _ (by decide), ?_, ?_, ?_⟩
  · simpa [isDot] using apart "." (by decide)
  · simp [isTooLong, utf8ByteSize_longName]
  · rw [letters]
    decide
  · rw [letters]
    decide

/-- A path of sixteen names. -/
def deep : StoragePath := ⟨"file", "", List.replicate 16 longName⟩

/-- Along ordinary names, and with no file in the way, a creation fails: the operating system does not
accept a path of that length. -/
theorem create_overlong : Disk.empty.IsTree ∧ Ordinary deep.segments ∧ deep.scheme = "file" ∧
    (∀ place, place <+: deep.segments → ∀ bytes, Disk.empty.find? place ≠ some (.file bytes)) ∧
      ((create deep .temporary).outcome [] ⟨.on .empty, []⟩).1 =
        .error (.system Fault.nameTooLong.message) := by
  have ordinary : Ordinary deep.segments := by
    intro name mem
    rw [List.eq_of_mem_replicate mem]
    exact isOrdinary_longName
  refine ⟨isTree_empty, ordinary, rfl, fun place _ bytes => ?_, ?_⟩
  · rw [Disk.find?]
    split <;> simp [Disk.empty]
  · have long : pathSize deep.segments = 4096 := by
      rw [deep, pathSize_replicate, utf8ByteSize_longName]
    have refused : refusal? deep.segments = some .nameTooLong := by
      rw [ordinary.refusal?_eq, long]
      rfl
    obtain ⟨events, outcome⟩ := create_outcome deep .temporary [] ⟨.on .empty, []⟩
    rw [outcome, created_of_refused _ rfl refused]

end LocalStorage

end QuerySession
