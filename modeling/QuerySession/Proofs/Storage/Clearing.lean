import QuerySession.Proofs.Leftovers
import QuerySession.Proofs.Storage.Removal
import QuerySession.Session.Handles

/-!
# What is left of a disk when locations were deleted

Locations are deleted one after the other, in any order, and each by the handle of its workspace.  One
may lie inside another, and a path may go up by two dots, so that it denotes nothing any more once
another location is gone.  Either way, nothing is found along a path that was deleted without a fault,
and nothing is found there later, since deletions only take away.

## Main Definitions

* `Disk.Within` — what stands on one disk stands on another
* `Handles.Cleared` — what a disk has become when locations were deleted

## Main Results

* `Disk.stat_append_ne_ok` — below a path that leads to nothing there is nothing
* `LocalStorage.Deletion.gone`, `LocalStorage.Deletion.emptied_below`, `LocalStorage.Deletion.kept` — a
  deletion that succeeds
* `Handles.cleared_of_answered` — any number of them
-/

namespace QuerySession

namespace Disk

variable {d d' : Disk} {here names more place : List String} {entry : Entry}

/-- What stands on one disk stands on another. -/
def Within (d' d : Disk) : Prop :=
  ∀ place entry, d'.find? place = some entry → d.find? place = some entry

namespace Within

theorem refl (d : Disk) : d.Within d := fun _ _ found => found

theorem trans {d'' : Disk} (second : d''.Within d') (first : d'.Within d) : d''.Within d :=
  fun place entry found => first place entry (second place entry found)

theorem cut (d : Disk) (top : List String) : (d.cut top).Within d := by
  intro place entry found
  rw [find?_cut] at found
  split at found
  · cases found
  · exact found

/-- What is nowhere on the larger disk is nowhere on the smaller one. -/
theorem find?_eq_none (within : d'.Within d) (nothing : d.find? place = none) :
    d'.find? place = none := by
  by_contra there
  obtain ⟨entry, found⟩ := Option.ne_none_iff_exists'.mp there
  rw [within place entry found] at nothing
  cases nothing

/-- A way that can be gone on the smaller disk leads to the same place on the larger one. -/
theorem walk (within : d'.Within d) (h : d'.walk here names = .ok place) :
    d.walk here names = .ok place := by
  induction names generalizing here with
  | nil => exact h
  | cons name names ih =>
    cases found : d'.find? here with
    | none => simp [Disk.walk, found] at h
    | some entry =>
      cases entry with
      | file bytes => simp [Disk.walk, found] at h
      | folder mode =>
        simp only [Disk.walk, found, within here _ found] at h ⊢
        split at h
        · rename_i dot
          rw [if_pos dot]
          exact ih h
        · rename_i dot
          rw [if_neg dot]
          split at h
          · rename_i up
            rw [if_pos up]
            exact ih h
          · rename_i up
            rw [if_neg up]
            split at h
            · cases h
            · rename_i short
              rw [if_neg short]
              split at h
              · cases h
              · rename_i there
                have stands : ¬ (d.find? (here ++ [name])).isNone = true := by
                  intro none_
                  rw [within.find?_eq_none (Option.isNone_iff_eq_none.mp none_)] at there
                  exact there rfl
                rw [if_neg stands]
                exact ih h

theorem locate (within : d'.Within d) (h : d'.locate names = .ok place) :
    d.locate names = .ok place := by
  obtain ⟨allowed, way⟩ := locate_ok_iff.mp h
  exact locate_ok_iff.mpr ⟨allowed, within.walk way⟩

theorem stat (within : d'.Within d) (h : d'.stat names = .ok entry) : d.stat names = .ok entry := by
  obtain ⟨place, at_, found⟩ := stat_ok_iff.mp h
  exact stat_ok_iff.mpr ⟨place, within.locate at_, within place entry found⟩

end Within

/-- **Below a path that leads to nothing there is nothing.** -/
theorem stat_append_ne_ok (nothing : ∀ top, d.locate names = .ok top → d.find? top = none) :
    d.stat (names ++ more) ≠ .ok entry := by
  intro found
  obtain ⟨place, at_, stands⟩ := stat_ok_iff.mp found
  obtain ⟨allowed, way⟩ := locate_ok_iff.mp at_
  rw [walk_append] at way
  cases first : d.walk [] names with
  | error fault =>
    rw [first] at way
    cases way
  | ok top =>
    rw [first] at way
    have free := nothing top
      (locate_ok_iff.mpr ⟨refusal?_of_above (List.prefix_append names more) allowed, first⟩)
    cases more with
    | nil =>
      cases way
      rw [free] at stands
      cases stands
    | cons name more =>
      have folder := hasFolder_of_walk_cons way
      rw [hasFolder, free] at folder
      cases folder

/-- A path with a last name that leads down does not denote the top. -/
theorem ne_nil_of_locate (named : lastNameFault? names = none) (h : d.locate names = .ok place) :
    place ≠ [] := by
  cases names using List.reverseRecOn with
  | nil => cases named
  | append_singleton above last =>
    simp only [lastNameFault?, List.getLast?_concat] at named
    have way := (locate_ok_iff.mp h).2
    rw [walk_append] at way
    cases first : d.walk [] above with
    | error fault =>
      rw [first] at way
      cases way
    | ok top =>
      rw [first] at way
      change d.walk top [last] = .ok place at way
      obtain ⟨mode, found⟩ := hasFolder_iff.mp (hasFolder_of_walk_cons way)
      simp only [walk, found] at way
      split at named
      · cases named
      · rename_i dot
        split at named
        · cases named
        · rename_i up
          rw [if_neg dot, if_neg up] at way
          split at way
          · cases way
          · split at way
            · cases way
            · cases way
              simp

end Disk

/-! ## One deletion -/

namespace LocalStorage

open Disk

variable {d d' : Disk} {names more place : List String} {recursive found : Bool} {entry : Entry}

/-- The place of a deletion is not the top. -/
theorem ne_nil_of_removed (at_ : d.locate names = .ok place)
    (named : lastNameFault? names = none ∨ d.hasFolder place = false) : place ≠ [] := by
  rcases named with named | none_
  · exact ne_nil_of_locate named at_
  · rintro rfl
    cases none_

namespace Deletion

/-- A deletion that succeeds only takes away. -/
theorem within (h : Deletion d names recursive (.ok found) d') : d'.Within d := by
  cases h with
  | nothing => exact .refl d
  | removed top => exact .cut d top

/-- **Nothing is found along a path that was deleted**, nor below it. -/
theorem gone (h : Deletion d names recursive (.ok found) d') :
    d'.stat (names ++ more) ≠ .ok entry := by
  apply stat_append_ne_ok
  intro top at_
  cases h with
  | nothing absent =>
    by_contra there
    obtain ⟨entry, stands⟩ := Option.ne_none_iff_exists'.mp there
    rw [stat_ok_iff.mpr ⟨top, at_, stands⟩] at absent
    cases absent
  | removed place way there named =>
    cases ((Within.cut d place).locate at_).symm.trans way
    rw [find?_cut, if_pos ⟨ne_nil_of_removed way named, List.prefix_rfl⟩]

/-- **Nothing stands at a place that was deleted**, nor below it, where paths do not go up. -/
theorem emptied_below (h : Deletion d names recursive (.ok found) d') (tree : d.IsTree)
    (plain : ".." ∉ names) (below : withoutDots names <+: place) : d'.find? place = none := by
  cases h with
  | nothing absent => exact tree.find?_eq_none below (tree.find?_of_stat_notFound plain absent)
  | removed top at_ there named =>
    have top_ne := ne_nil_of_removed at_ named
    obtain rfl := eq_withoutDots_of_locate plain at_
    have place_ne : place ≠ [] := by
      rintro rfl
      exact top_ne (List.prefix_nil.mp below)
    rw [find?_cut, if_pos ⟨place_ne, below⟩]

/-- **Nothing else changes.** -/
theorem kept (h : Deletion d names recursive (.ok found) d')
    (outside : ∀ top, d.locate names = .ok top → ¬ top <+: place) :
    d'.find? place = d.find? place := by
  cases h with
  | nothing => rfl
  | removed top at_ => rw [find?_cut, if_neg fun both => outside top at_ both.2]

end Deletion

/-- A deletion that succeeds is one of a path of this storage. -/
theorem deletion_of_deleted {s s' : LocalStorage} {p : StoragePath}
    (h : s.deleted p recursive = (.ok found, s')) :
    Deletion s.disk p.segments recursive (.ok found) s'.disk := by
  by_cases mine : p.scheme = "file"
  · rw [deleted_of_file s mine] at h
    obtain ⟨answer, left⟩ := Prod.mk.inj h
    have deletion := deleteAt_deletion s.disk p.segments recursive
    subst left
    cases result : (deleteAt s.disk p.segments recursive).1 with
    | error fault =>
      rw [result] at answer
      cases answer
    | ok told =>
      rw [result] at answer deletion
      cases answer
      exact deletion
  · obtain ⟨e, refused⟩ := deleted_of_foreign s mine recursive
    rw [refused] at h
    cases h

end LocalStorage

/-! ## Any number of deletions -/

namespace Handles

open Disk LocationCalls

variable {spans : List String} {scene : Scene Handles} {h : List Happening} {d d' d'' : Disk}

theorem delete_outcome (name : String) (p : StoragePath) (spans : List String)
    (scene : Scene Handles) : (storages.delete name p true).outcome spans scene =
      (((scene.outside.handle name).deleted p true).1,
        ⟨scene.outside.put name ((scene.outside.handle name).deleted p true).2, scene.events⟩) := by
  have one := LocalStorage.delete_outcome p true spans ⟨scene.outside.handle name, scene.events⟩
  show focus (·.handle name) (put name) (LocalStorage.delete p true).outcome spans scene = _
  rw [focus, one]

/-- What the disk `d` has become when the deletions in `h` were answered: `d'`. -/
structure Cleared (d d' : Disk) (h : List Happening) : Prop where
  within : d'.Within d
  tree : d.IsTree → d'.IsTree
  /-- Along a path that was deleted, nothing is found. -/
  gone : ∀ i storage path answer, .deleteAnswered i storage path answer ∈ h →
    ∀ more entry, d'.stat (path.segments ++ more) ≠ .ok entry
  /-- Where the path does not go up, nothing stands at its place, nor below. -/
  vacated : d.IsTree → ∀ i storage path answer, .deleteAnswered i storage path answer ∈ h →
    ".." ∉ path.segments → ∀ place, withoutDots path.segments <+: place → d'.find? place = none
  /-- Nothing has changed but at the places that were deleted, and below them. -/
  kept : ∀ place, (∀ i storage path answer top, .deleteAnswered i storage path answer ∈ h →
    d.locate path.segments = .ok top → ¬ top <+: place) → d'.find? place = d.find? place

namespace Cleared

theorem nil (d : Disk) : Cleared d d [] where
  within := .refl d
  tree tree := tree
  gone _ _ _ _ mem := absurd mem List.not_mem_nil
  vacated _ _ _ _ _ mem := absurd mem List.not_mem_nil
  kept _ _ := rfl

/-- Something else than a deletion happened. -/
theorem skip {e : Happening}
    (other : ∀ i storage path answer, e ≠ .deleteAnswered i storage path answer)
    (rest : Cleared d d' h) : Cleared d d' (e :: h) := by
  have later {i : Nat} {storage : String} {path : StoragePath} {answer : Except Error Bool}
      (mem : .deleteAnswered i storage path answer ∈ e :: h) :
      .deleteAnswered i storage path answer ∈ h := by
    exact (List.mem_cons.mp mem).resolve_left fun same => other _ _ _ _ same.symm
  exact ⟨rest.within, rest.tree, fun i storage path answer mem => rest.gone i storage path answer
    (later mem), fun tree i storage path answer mem => rest.vacated tree i storage path answer
      (later mem), fun place outside => rest.kept place fun i storage path answer top mem =>
        outside i storage path answer top (List.mem_cons_of_mem e mem)⟩

/-- A deletion was answered, and then others. -/
theorem cons {i : Nat} {storage : String} {path : StoragePath} {found : Bool}
    (first : LocalStorage.Deletion d path.segments true (.ok found) d') (rest : Cleared d' d'' h) :
    Cleared d d'' (.deleteAnswered i storage path (.ok found) :: h) where
  within := rest.within.trans first.within
  tree tree := rest.tree (first.tree tree)
  gone j s p answer mem more entry there := by
    rcases List.mem_cons.mp mem with same | later
    · cases same
      exact first.gone (rest.within.stat there)
    · exact rest.gone j s p answer later more entry there
  vacated tree j s p answer mem plain place below := by
    rcases List.mem_cons.mp mem with same | later
    · cases same
      exact rest.within.find?_eq_none (first.emptied_below tree plain below)
    · exact rest.vacated (first.tree tree) j s p answer later plain place below
  kept place outside := by
    have here : d'.find? place = d.find? place := first.kept fun top at_ =>
      outside i storage path _ top List.mem_cons_self at_
    rw [← here]
    -- What a path denotes later it denoted before.
    exact rest.kept place fun j s p answer top mem at_ =>
      outside j s p answer top (List.mem_cons_of_mem _ mem) (first.within.locate at_)

end Cleared

/-- **What deletions leave** that handles on one disk have answered, when none has failed and nothing
was made meanwhile. -/
theorem cleared_of_answered (answered : Answered storages spans scene h)
    (nothing_made : ∀ e ∈ h, e.enters = false) (clean : NeverFails h) :
    Cleared scene.outside.disk (served storages spans scene h).outside.disk h := by
  induction h generalizing scene with
  | nil => exact .nil _
  | cons e h ih =>
    obtain ⟨tells, rest⟩ := answered
    have later := ih rest (fun e mem => nothing_made e (List.mem_cons_of_mem _ mem))
      fun i storage path err mem => clean i storage path err (List.mem_cons_of_mem _ mem)
    cases e with
    | deleteAnswered i storage path answer =>
      cases answer with
      | error err => exact absurd List.mem_cons_self (clean i storage path err)
      | ok found =>
        have outcome := delete_outcome storage path spans scene
        simp only [Happening.Tells, outcome] at tells
        have left : (Happening.leaves storages spans scene
            (.deleteAnswered i storage path (.ok found))).outside.disk =
              ((scene.outside.handle storage).deleted path true).2.disk := by
          simp only [Happening.leaves, outcome]
          rfl
        refine .cons ?_ later
        rw [left]
        exact LocalStorage.deletion_of_deleted (Prod.ext tells rfl)
    | createAnswered | probeAnswered => cases nothing_made _ List.mem_cons_self
    | _ => exact .skip (by simp) later

end Handles

end QuerySession
