import QuerySession.Proofs.Storage.Clearing
import QuerySession.Proofs.Storage.Exit

/-!
# The order in which scheduled folders are removed

When a storage is given up its scheduled folders are removed one after the other, in whatever order
they come.  Each removal changes what the later ones find: a folder may be gone with the one around it,
and a path that goes up by two dots may lead nowhere any more.  As long as no path leads through the
folder of another one and out of it again the order does not matter: gone is what was at or below those
paths that led to folders, whatever became of the others, and nothing else.

## Main Definitions

* `Disk.LeadsTo`, `Disk.takes` — a path leads to a folder, and to one at or above a place
* `Disk.cleared` — a disk without what is at or below some folders
* `Disk.Untangled` — no path leads through the folder of another one and out of it again

## Main Results

* `Disk.untangled_of_plain` — paths without double dots are not tangled
* `LocalStorage.named_run` — whatever was created, the last name of a scheduled path leads down
* `LocalStorage.giveUp_perm` — what is left does not depend on the order
* `LocalStorage.sweep_perm_iff` — which schedules these are, if no folder is inside another
* `LocalStorage.giveUp_astray` — two creations after which the order matters

## Implementation Notes

The way of a path that is still to be removed is the same as in the beginning unless its own folder is
gone already (`removeTree_cleared`).  This carries the induction along the order.  It needs no tree: a
way can be gone or not by what stands along it.
-/

namespace QuerySession

namespace Disk

variable {d d' : Disk} {g names top other place here next : List String} {name : String}
  {schedule done : List (List String)}

/-! ## Paths that lead to folders -/

/-- A path leads to a folder. -/
def LeadsTo (d : Disk) (g top : List String) : Prop := d.locate g = .ok top ∧ d.hasFolder top = true

/-- Whether a path leads to a folder at or above a place. -/
def takes (d : Disk) (g place : List String) : Bool :=
  match d.locate g with
  | .ok top => d.hasFolder top && top.isPrefixOf place
  | .error _ => false

theorem takes_iff : d.takes g place = true ↔ ∃ top, d.LeadsTo g top ∧ top <+: place := by
  unfold takes LeadsTo
  cases d.locate g with
  | error fault => simp
  | ok top => simp [List.isPrefixOf_iff_prefix]

theorem LeadsTo.eq (first : d.LeadsTo g top) (second : d.LeadsTo g other) : top = other := by
  have same := first.1.symm.trans second.1
  cases same
  rfl

theorem LeadsTo.takes_iff (leads : d.LeadsTo g top) : d.takes g place = true ↔ top <+: place := by
  rw [Disk.takes_iff]
  constructor
  · rintro ⟨other, again, below⟩
    rwa [leads.eq again]
  · exact fun below => ⟨top, leads, below⟩

theorem Within.leadsTo (within : d'.Within d) (leads : d'.LeadsTo g top) : d.LeadsTo g top := by
  obtain ⟨mode, found⟩ := hasFolder_iff.mp leads.2
  exact ⟨within.locate leads.1, hasFolder_of_find? (within top _ found)⟩

/-- The folder that a path leads to is removed. -/
theorem LeadsTo.removeTree (leads : d.LeadsTo g top) (named : lastNameFault? g = none) :
    (d.removeTree g).2 = d.cut top := by
  obtain ⟨mode, found⟩ := hasFolder_iff.mp leads.2
  simp only [Disk.removeTree, leads.1, found, named]

/-- A path that leads to no folder: nothing is removed. -/
theorem removeTree_of_not_leadsTo (astray : ∀ top, ¬d.LeadsTo g top) : (d.removeTree g).2 = d := by
  unfold Disk.removeTree
  cases at_ : d.locate g with
  | error fault => rfl
  | ok top =>
    cases found : d.find? top with
    | none => simp only [found]
    | some entry =>
      cases entry with
      | file bytes => simp only [found]
      | folder mode => exact absurd ⟨at_, hasFolder_of_find? found⟩ (astray top)

/-! ## The same way on another disk -/

/-- A step leads to the same place on a disk that has the same there and here. -/
theorem walk_step (step : d.walk here [name] = .ok next) (same_here : d'.find? here = d.find? here)
    (same_next : d'.find? next = d.find? next) : d'.walk here [name] = .ok next := by
  obtain ⟨mode, found⟩ := hasFolder_iff.mp (hasFolder_of_walk_cons step)
  simp only [walk, same_here, found] at step ⊢
  by_cases dot : isDot name = true
  · rwa [if_pos dot] at step ⊢
  rw [if_neg dot] at step ⊢
  by_cases up : name = ".."
  · rwa [if_pos up] at step ⊢
  rw [if_neg up] at step ⊢
  by_cases long : isTooLong name = true
  · rw [if_pos long] at step
    cases step
  rw [if_neg long] at step ⊢
  split at step
  · cases step
  · rename_i there
    cases step
    rw [same_next, if_neg there]

/-- A way can be gone as before if everything along it is as before. -/
theorem walk_of_along (way : d.walk here names = .ok place)
    (along : ∀ front mid, front <+: names → d.walk here front = .ok mid →
      d'.find? mid = d.find? mid) : d'.walk here names = .ok place := by
  induction names using List.reverseRecOn generalizing place with
  | nil => exact way
  | append_singleton names name ih =>
    obtain ⟨mid, first, step⟩ := bind_eq_ok_iff.mp ((walk_append ..).symm.trans way)
    have above : names <+: names ++ [name] := List.prefix_append ..
    have arrived := ih first fun front mid inside => along front mid (inside.trans above)
    rw [walk_append, arrived]
    exact walk_step step (along names mid above first) (along _ place List.prefix_rfl way)

theorem locate_of_along (at_ : d.locate names = .ok place)
    (along : ∀ front mid, front <+: names → d.locate front = .ok mid →
      d'.find? mid = d.find? mid) : d'.locate names = .ok place := by
  obtain ⟨allowed, way⟩ := locate_ok_iff.mp at_
  refine locate_ok_iff.mpr ⟨allowed, walk_of_along way fun front mid above first => ?_⟩
  exact along front mid above (locate_ok_iff.mpr ⟨refusal?_of_above above allowed, first⟩)

/-! ## What is left -/

/-- A disk without what is at or below those paths that lead to folders. -/
def cleared (d : Disk) (schedule : List (List String)) : Disk :=
  ⟨d.entries.filter fun e => !schedule.any (d.takes · e.1)⟩

theorem find?_cleared (d : Disk) (schedule : List (List String)) (place : List String) :
    (d.cleared schedule).find? place =
      if place ≠ [] ∧ ∃ g ∈ schedule, d.takes g place = true then none else d.find? place := by
  have entries := Keyed.find?_filter_key d.entries (fun key => !schedule.any (d.takes · key)) place
  unfold find?
  by_cases at_top : place = []
  · simp [at_top]
  · simp only [at_top, if_false, ne_eq, not_false_eq_true, true_and]
    refine entries.trans ?_
    by_cases taken : ∃ g ∈ schedule, d.takes g place = true
    · rw [if_pos taken, List.any_eq_true.mpr taken]
      rfl
    · rw [if_neg taken, Bool.eq_false_iff.mpr (taken ∘ List.any_eq_true.mp)]
      rfl

theorem cleared_nil (d : Disk) : d.cleared [] = d := by
  obtain ⟨entries, distinct⟩ := d.entries
  simp [cleared, Keyed.filter]

theorem cleared_congr {more : List (List String)}
    (same : ∀ place, (∃ g ∈ schedule, d.takes g place = true) ↔ ∃ g ∈ more, d.takes g place = true) :
    d.cleared schedule = d.cleared more := by
  refine congrArg Disk.mk (congrArg (Keyed.filter · d.entries) (funext fun e => ?_))
  rw [Bool.not_inj_iff, Bool.eq_iff_iff, List.any_eq_true, List.any_eq_true]
  exact same e.1

theorem cleared_within (d : Disk) (schedule : List (List String)) : (d.cleared schedule).Within d := by
  intro place entry found
  rw [find?_cleared] at found
  split at found
  · cases found
  · exact found

/-- No path of a schedule leads through the folder of another one and out of it again. -/
def Untangled (d : Disk) (schedule : List (List String)) : Prop :=
  ∀ g ∈ schedule, ∀ h ∈ schedule, ∀ top other, d.LeadsTo g top → d.LeadsTo h other →
    ∀ front mid, front <+: g → d.locate front = .ok mid → other <+: mid → other <+: top

/-- Without double dots paths lead further down with every name. -/
theorem untangled_of_plain (plain : ∀ g ∈ schedule, ".." ∉ g) (d : Disk) : d.Untangled schedule := by
  intro g mem h _ top other leads _ front mid above at_ inside
  have inner : ".." ∉ front := fun dots => plain g mem (above.subset dots)
  rw [eq_withoutDots_of_locate (plain g mem) leads.1]
  rw [eq_withoutDots_of_locate inner at_] at inside
  exact inside.trans (withoutDots_above above)

/-- One more folder is removed, or it is gone already, or there was none. -/
theorem removeTree_cleared (named : lastNameFault? g = none) (untangled : d.Untangled schedule)
    (mem : g ∈ schedule) (part : ∀ h ∈ done, h ∈ schedule) :
    ((d.cleared done).removeTree g).2 = d.cleared (done ++ [g]) := by
  have within := cleared_within d done
  by_cases leads : ∃ top, d.LeadsTo g top
  case neg =>
    have takes_nothing (place : List String) : d.takes g place = false := by
      refine Bool.eq_false_iff.mpr fun taken => ?_
      obtain ⟨top, found, -⟩ := takes_iff.mp taken
      exact leads ⟨top, found⟩
    rw [removeTree_of_not_leadsTo fun top found => leads ⟨top, within.leadsTo found⟩]
    refine cleared_congr fun place => ?_
    simp only [List.mem_append, List.mem_singleton, or_and_right, exists_or, exists_eq_left,
      takes_nothing, Bool.false_eq_true, or_false]
  obtain ⟨top, leads⟩ := leads
  have top_ne : top ≠ [] := ne_nil_of_locate named leads.1
  by_cases gone : ∃ h ∈ done, d.takes h top = true
  · -- The folder is gone with one at or above it.
    have astray (q : List String) : ¬(d.cleared done).LeadsTo g q := by
      intro found
      obtain rfl := leads.eq (within.leadsTo found)
      have folder := found.2
      rw [hasFolder, find?_cleared, if_pos ⟨top_ne, gone⟩] at folder
      cases folder
    rw [removeTree_of_not_leadsTo astray]
    refine cleared_congr fun place => ?_
    constructor
    · rintro ⟨h, earlier, taken⟩
      exact ⟨h, List.mem_append_left _ earlier, taken⟩
    · rintro ⟨h, either, taken⟩
      rcases List.mem_append.mp either with earlier | last
      · exact ⟨h, earlier, taken⟩
      · obtain rfl := List.mem_singleton.mp last
        obtain ⟨h', earlier, covers⟩ := gone
        obtain ⟨other, leads', inside⟩ := takes_iff.mp covers
        exact ⟨h', earlier, leads'.takes_iff.mpr (inside.trans (leads.takes_iff.mp taken))⟩
  · -- Nothing along the way is gone, for whoever took it would have taken the folder as well.
    have along (front mid : List String) (above : front <+: g) (at_ : d.locate front = .ok mid) :
        (d.cleared done).find? mid = d.find? mid := by
      rw [find?_cleared, if_neg]
      rintro ⟨-, h, earlier, covers⟩
      obtain ⟨other, leads', inside⟩ := takes_iff.mp covers
      have covers_top := untangled g mem h (part h earlier) top other leads leads' front mid above at_
        inside
      exact gone ⟨h, earlier, leads'.takes_iff.mpr covers_top⟩
    have still : (d.cleared done).LeadsTo g top := by
      refine ⟨locate_of_along leads.1 along, ?_⟩
      rw [hasFolder, along g top List.prefix_rfl leads.1]
      exact leads.2
    rw [still.removeTree named, cut, cleared, Keyed.filter_filter]
    refine congrArg Disk.mk (congrArg (Keyed.filter · d.entries) (funext fun e => ?_))
    have takes_eq : d.takes g e.1 = top.isPrefixOf e.1 := by
      rw [Bool.eq_iff_iff, leads.takes_iff, List.isPrefixOf_iff_prefix]
    simp only [List.any_append, List.any_cons, List.any_nil, Bool.or_false, Bool.not_or, takes_eq,
      Bool.and_comm]

end Disk

namespace LocalStorage

open Disk

variable {s : LocalStorage} {d d' : Disk} {g top other front mid place : List String}
  {schedule order done rest : List (List String)} {scene : Scene LocalStorage}

/-! ## What is scheduled -/

/-- What is missing in a folder that is there has a name that leads down. -/
theorem lastNameFault?_of_lacks {names : List String} {name : String} (tree : d.IsTree)
    (there : isThere d names = .ok true) (lacks : isThere d (names ++ [name]) = .ok false) :
    lastNameFault? (names ++ [name]) = none := by
  obtain ⟨entry, seen⟩ := isThere_true_iff.mp there
  obtain ⟨here, at_, stands⟩ := stat_ok_iff.mp seen
  have absent := isThere_false_iff.mp lacks
  have allowed := allowed_of_stat_notFound absent
  have way : d.walk [] (names ++ [name]) = d.walk here [name] := by
    rw [walk_append, (locate_ok_iff.mp at_).2]
    rfl
  -- Dots stay in the folder or lead to the one around it, and both are there.
  have found (next : List String) (folder : d.hasFolder next = true)
      (step : d.walk here [name] = .ok next) : False := by
    obtain ⟨mode, stands⟩ := hasFolder_iff.mp folder
    have seen := stat_ok_iff.mpr ⟨next, locate_ok_iff.mpr ⟨allowed, way.trans step⟩, stands⟩
    rw [absent] at seen
    cases seen
  cases entry with
  | file bytes =>
    rw [stat, locate_of_allowed allowed, way] at absent
    simp only [walk, stands, bind, Except.bind] at absent
    cases absent
  | folder mode =>
    have folder := hasFolder_of_find? stands
    rw [lastNameFault?, List.getLast?_concat]
    dsimp only
    split
    · rename_i dot
      have step : d.walk here [name] = .ok here := by
        simp only [walk, stands]
        rw [if_pos dot]
      exact (found here folder step).elim
    · split
      · rename_i dot up
        have above := tree.hasFolder_of_hasFolder (List.dropLast_prefix here) folder
        have step : d.walk here [name] = .ok here.dropLast := by
          simp only [walk, stands]
          rw [if_neg dot, if_pos up]
        exact (found _ above step).elim
      · rfl

/-- The last names of all scheduled paths lead down, on a disk that is a tree. -/
structure Named (s : LocalStorage) : Prop where
  tree : s.disk.IsTree
  named : ∀ g ∈ s.schedule, lastNameFault? g = none

/-- What a creation puts on the schedule was missing in a folder that was there. -/
theorem schedule_of_created {s' : LocalStorage} {p : StoragePath} {strategy : FolderStrategy}
    (created : s.created p strategy = (.ok (), s')) : s'.schedule = s.schedule ∨
      ∃ k < p.segments.length, isThere s.disk (p.segments.take k) = .ok true ∧
        isThere s.disk (p.segments.take (k + 1)) = .ok false ∧
          s'.schedule = enlist s.schedule (p.segments.take (k + 1)) := by
  unfold LocalStorage.created at created
  split at created
  · cases created
  · rename_i names names_eq
    obtain ⟨-, rfl⟩ := namesOf_ok_iff.mp names_eq
    split at created
    · cases created
    · rename_i absent absent_eq
      obtain ⟨-, -, nothing_missing, something_missing⟩ := createMissing_ok created
      obtain ⟨k, -, there, ends, each⟩ := missing_ok absent_eq
      rcases ends with ⟨-, rfl⟩ | ⟨lt, -, last⟩
      · exact .inl (nothing_missing rfl)
      · have schedule := something_missing _ last
        split at schedule
        · exact .inr ⟨k, lt, there, (each _ (List.mem_of_getLast? last)).2, schedule⟩
        · exact .inl schedule

theorem Named.created (h : s.Named) (p : StoragePath) (strategy : FolderStrategy) :
    (s.created p strategy).2.Named := by
  obtain ⟨tree, kept | ⟨-, succeeded⟩⟩ := created_left h.tree p strategy
  · exact ⟨tree, kept ▸ h.named⟩
  refine ⟨tree, fun g mem => ?_⟩
  rcases schedule_of_created (Prod.ext succeeded rfl) with kept | ⟨k, lt, there, lacks, schedule⟩
  · exact h.named g (kept ▸ mem)
  · rcases mem_enlist (schedule ▸ mem) with old | rfl
    · exact h.named g old
    · rw [List.take_succ_eq_append_getElem lt] at lacks ⊢
      exact lastNameFault?_of_lacks h.tree there lacks

theorem Named.deleted (h : s.Named) (p : StoragePath) (recursive : Bool) :
    (s.deleted p recursive).2.Named := by
  by_cases mine : p.scheme = "file"
  · rw [deleted_of_file s mine]
    exact ⟨(deleteAt_deletion ..).tree h.tree, fun g mem => h.named g (List.mem_of_mem_filter mem)⟩
  · obtain ⟨e, same⟩ := deleted_of_foreign s mine recursive
    rw [same]
    exact h

/-- **Whatever was created**, deleted or put on the disk by others, along any paths, the last name of a
scheduled path leads down. -/
theorem named_run (tree : scene.outside.disk.IsTree) (unscheduled : scene.outside.schedule = [])
    (calls : List Call) (spans : List String) : (run spans scene calls).outside.Named := by
  have start : scene.outside.Named := ⟨tree, by simp [unscheduled]⟩
  clear tree unscheduled
  induction calls generalizing scene with
  | nil => exact start
  | cons call calls ih =>
    rw [run_cons]
    refine ih ?_
    rw [serve_outside]
    cases call with
    | create p strategy => exact start.created p strategy
    | delete p recursive => exact start.deleted p recursive
    | add place entry => exact ⟨start.tree.add place entry, start.named⟩

/-! ## Any order -/

/-- Folders are removed one after the other. -/
theorem sweep_cleared (named : ∀ g ∈ schedule, lastNameFault? g = none)
    (untangled : d.Untangled schedule) (part : ∀ g ∈ done ++ rest, g ∈ schedule) :
    sweep (d.cleared done) rest = d.cleared (done ++ rest) := by
  induction rest generalizing done with
  | nil => rw [List.append_nil]; rfl
  | cons g rest ih =>
    have mem : g ∈ schedule := part g (by simp)
    have first := removeTree_cleared (named g mem) untangled mem fun h earlier =>
      part h (List.mem_append_left _ earlier)
    have regroup : done ++ g :: rest = done ++ [g] ++ rest := by simp
    show sweep ((d.cleared done).removeTree g).2 rest = _
    rw [first, regroup]
    exact ih (by rwa [← regroup])

/-- Folders of an untangled schedule are removed, in whatever order. -/
theorem sweep_perm (named : ∀ g ∈ schedule, lastNameFault? g = none)
    (untangled : d.Untangled schedule) (perm : order.Perm schedule) :
    sweep d order = d.cleared schedule := by
  have all : sweep (d.cleared []) order = d.cleared ([] ++ order) :=
    sweep_cleared named untangled fun g mem => perm.mem_iff.mp mem
  rw [cleared_nil, List.nil_append] at all
  rw [all]
  exact cleared_congr fun place => exists_congr fun g => and_congr_left' perm.mem_iff

/-- **What is left does not depend on the order** in which the scheduled folders are removed, on any
disk and for any schedule that is not tangled.  Nothing is left at or below those of its paths that led
to folders, and everything else has stayed, whatever the other paths led to. -/
theorem giveUp_perm (d : Disk) (schedule : List (List String))
    (named : ∀ g ∈ schedule, lastNameFault? g = none) (untangled : d.Untangled schedule)
    (order : List (List String)) (perm : order.Perm schedule) (events : List Event)
    (spans : List String) :
    let left := (giveUp spans ⟨⟨d, order⟩, events⟩).2.outside
    left = ⟨d.cleared schedule, []⟩ ∧
      ∀ place, ((∃ g ∈ schedule, ∃ top, d.LeadsTo g top ∧ top <+: place) →
          left.disk.find? place = none) ∧
        ((¬∃ g ∈ schedule, ∃ top, d.LeadsTo g top ∧ top <+: place) →
          left.disk.find? place = d.find? place) := by
  intro left
  have left_eq : left = ⟨d.cleared schedule, []⟩ := by
    show (giveUp spans ⟨⟨d, order⟩, events⟩).2.outside = _
    rw [giveUp_outside, sweep_perm named untangled perm]
  refine ⟨left_eq, fun place => ?_⟩
  have taken_iff : (∃ g ∈ schedule, ∃ top, d.LeadsTo g top ∧ top <+: place) ↔
      ∃ g ∈ schedule, d.takes g place = true := by simp only [takes_iff]
  rw [left_eq, taken_iff, find?_cleared]
  refine ⟨fun taken => if_pos ⟨?_, taken⟩, fun none_ => if_neg fun both => none_ both.2⟩
  obtain ⟨g, mem, top, leads, below⟩ := taken_iff.mpr taken
  rintro rfl
  exact ne_nil_of_locate (named g mem) leads.1 (List.prefix_nil.mp below)

/-- A folder in another, a file and a folder beside them. -/
def scattered : Disk :=
  Disk.empty.addAll [(["a"], .folder 0o700), (["a", "b"], .folder 0o700), (["c"], .file [1]),
    (["e"], .folder 0o700)]

/-- The outer folder is removed last, a missing one first; what has become a file stays. -/
theorem giveUp_perm_scattered :
    let schedule := [["a"], ["a", "b"], ["c"], ["m"]]
    let order := [["m"], ["a", "b"], ["c"], ["a"]]
    (∀ g ∈ schedule, lastNameFault? g = none) ∧ scattered.Untangled schedule ∧
      order.Perm schedule ∧
        let left := (giveUp [] ⟨⟨scattered, order⟩, []⟩).2.outside
        left.disk.find? ["a"] = none ∧ left.disk.find? ["a", "b"] = none ∧
          left.disk.find? ["c"] = some (.file [1]) ∧
            left.disk.find? ["e"] = some (.folder 0o700) := by
  intro schedule order
  have named : ∀ g ∈ schedule, lastNameFault? g = none := by decide
  have untangled : scattered.Untangled schedule := untangled_of_plain (by decide) scattered
  have perm : order.Perm schedule := by decide
  obtain ⟨left_eq, -⟩ := giveUp_perm scattered schedule named untangled order perm [] []
  refine ⟨named, untangled, perm, ?_⟩
  rw [left_eq]
  exact ⟨rfl, rfl, rfl, rfl⟩

/-! ## Tangled schedules -/

/-- What no path takes stays. -/
theorem find?_sweep_of_kept (within : d'.Within d) (named : ∀ g ∈ order, lastNameFault? g = none)
    (kept : ∀ g ∈ order, ¬d.takes g place = true) :
    (sweep d' order).find? place = d'.find? place := by
  induction order generalizing d' with
  | nil => rfl
  | cons g order ih =>
    obtain ⟨g_named, others_named⟩ := List.forall_mem_cons.mp named
    obtain ⟨g_kept, others_kept⟩ := List.forall_mem_cons.mp kept
    show (sweep (d'.removeTree g).2 order).find? place = _
    by_cases leads : ∃ top, d'.LeadsTo g top
    · obtain ⟨top, leads⟩ := leads
      have apart : ¬top <+: place := fun below =>
        g_kept ((within.leadsTo leads).takes_iff.mpr below)
      rw [leads.removeTree g_named, ih ((Within.cut d' top).trans within) others_named others_kept,
        find?_cut, if_neg fun both => apart both.2]
    · rw [removeTree_of_not_leadsTo fun top found => leads ⟨top, found⟩,
        ih within others_named others_kept]

/-- A path that leads through a folder leads nowhere once the folder is gone. -/
theorem not_leadsTo_cut (leads : d.LeadsTo g top) (above : front <+: g)
    (at_ : d.locate front = .ok mid) (inside : other <+: mid) (other_ne : other ≠ [])
    (outside : ¬other <+: top) (q : List String) : ¬(d.cut other).LeadsTo g q := by
  intro found
  obtain ⟨more, rfl⟩ := above
  cases more with
  | nil =>
    -- The way ends in the folder, and does not lead out of it.
    rw [List.append_nil] at leads
    cases at_.symm.trans leads.1
    exact outside inside
  | cons name more =>
    obtain ⟨allowed, way⟩ := locate_ok_iff.mp found.1
    obtain ⟨mid', first, step⟩ := bind_eq_ok_iff.mp ((walk_append ..).symm.trans way)
    have same := (locate_ok_iff.mp at_).2.symm.trans ((Within.cut d other).walk first)
    cases same
    have folder := hasFolder_of_walk_cons step
    have mid_ne : mid ≠ [] := by
      rintro rfl
      exact other_ne (List.prefix_nil.mp inside)
    rw [hasFolder, find?_cut, if_pos ⟨mid_ne, inside⟩] at folder
    cases folder

/-- **Which schedules may be swept in any order**: if no folder of a schedule is at or below another one
of it, just those that are not tangled. -/
theorem sweep_perm_iff (d : Disk) (distinct : schedule.Nodup)
    (named : ∀ g ∈ schedule, lastNameFault? g = none)
    (apart : ∀ g ∈ schedule, ∀ top, d.LeadsTo g top → ∀ h ∈ schedule, d.takes h top = true → h = g) :
    (∀ order, order.Perm schedule → sweep d order = d.cleared schedule) ↔ d.Untangled schedule := by
  refine ⟨fun all => ?_, fun untangled order perm => sweep_perm named untangled perm⟩
  intro g g_mem h h_mem top other leads leads' front mid above at_ inside
  by_contra outside
  have other_ne := ne_nil_of_locate (named h h_mem) leads'.1
  have differ : h ≠ g := by
    rintro rfl
    rw [leads.eq leads'] at outside
    exact outside List.prefix_rfl
  -- The other folder is removed first, and then the path leads nowhere.
  obtain ⟨rest, perm⟩ : ∃ rest, (h :: g :: rest).Perm schedule := by
    have inner : g ∈ schedule.erase h := (List.mem_erase_of_ne differ.symm).mpr g_mem
    exact ⟨(schedule.erase h).erase g, ((List.perm_cons_erase inner).symm.cons h).trans
      (List.perm_cons_erase h_mem).symm⟩
  have unlike := (List.nodup_cons.mp (List.nodup_cons.mp (perm.nodup_iff.mpr distinct)).2).1
  have rest_mem (q : List String) (mem : q ∈ rest) : q ∈ schedule := perm.mem_iff.mp (by simp [mem])
  have stays : (sweep d (h :: g :: rest)).find? top = d.find? top := by
    show (sweep ((d.removeTree h).2.removeTree g).2 rest).find? top = _
    rw [leads'.removeTree (named h h_mem), removeTree_of_not_leadsTo
      (not_leadsTo_cut leads above at_ inside other_ne outside),
      find?_sweep_of_kept (Within.cut d other) fun q mem => named q (rest_mem q mem)]
    · rw [find?_cut, if_neg fun both => outside both.2]
    · intro q mem taken
      obtain rfl := apart g g_mem top leads q (rest_mem q mem) taken
      exact unlike mem
  have top_ne := ne_nil_of_locate (named g g_mem) leads.1
  have taken : ∃ q ∈ schedule, d.takes q top = true := ⟨g, g_mem, leads.takes_iff.mpr List.prefix_rfl⟩
  rw [all _ perm, find?_cleared, if_pos ⟨top_ne, taken⟩] at stays
  have folder := leads.2
  rw [hasFolder, ← stays] at folder
  cases folder

/-- A path through a folder and out of it again. -/
def around : StoragePath := ⟨"file", "", ["x", "..", "b"]⟩

/-- Two folders are made and are both on the schedule.  If the first one is removed before the second
one, the path of the second leads nowhere, and its folder is left; the other way round it is not. -/
theorem giveUp_astray :
    let s := (run [] ⟨.on .empty, []⟩ [.create ⟨"file", "", ["x"]⟩ .temporary,
      .create around .temporary]).outside
    s.schedule = [["x"], ["x", "..", "b"]] ∧ s.disk.LeadsTo ["x", "..", "b"] ["b"] ∧
      (giveUp [] ⟨s, []⟩).2.outside.disk.find? ["b"] = some (.folder 0o700) ∧
        (giveUp [] ⟨⟨s.disk, s.schedule.reverse⟩, []⟩).2.outside.disk.find? ["b"] = none :=
  ⟨rfl, ⟨rfl, rfl⟩, rfl, rfl⟩

end LocalStorage

end QuerySession
