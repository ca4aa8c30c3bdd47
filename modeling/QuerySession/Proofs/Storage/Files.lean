import QuerySession.Proofs.Storage.Folders

/-!
# What is written to a file is read back

A file can be written where nothing stands in a folder, or over another file.  Either way the path
leads to the same place afterwards: ways that could be gone before can be gone still, since no
folder has become a file.

## Main Definitions

* `Disk.Covers` — the folders of one disk, and whatever else stands on it, stand on another
* `Disk.fileAt` — where the file is written
* `Disk.Writable` — a file can be written along a path

## Main Results

* `Disk.Covers.walk` — ways stay open
* `Disk.contents_of_store` — what is written to a file is read back
* `Disk.Writable.store` — what is written does not decide whether it can be
-/

namespace QuerySession

namespace Disk

variable {d d' : Disk} {names here place : List String} {bytes : List UInt8}

/-! ## Ways that stay open -/

/-- The folders of the first disk are folders of the second, and where something stands on the first
something stands on the second. -/
structure Covers (d d' : Disk) : Prop where
  folders : ∀ place, d.hasFolder place = true → d'.hasFolder place = true
  there : ∀ place, (d.find? place).isSome = true → (d'.find? place).isSome = true

theorem Covers.refl (d : Disk) : Covers d d := ⟨fun _ h => h, fun _ h => h⟩

/-- Something that is put where no folder stands. -/
theorem covers_put (place_ne : place ≠ []) (noFolder : d.hasFolder place = false) (entry : Entry) :
    Covers d (d.put place entry) where
  folders q folder := by
    have other : place ≠ q := by
      rintro rfl
      rw [noFolder] at folder
      cases folder
    rwa [hasFolder, find?_put_of_ne place_ne, if_neg other]
  there q found := by
    rw [find?_put_of_ne place_ne]
    split
    · rfl
    · exact found

/-- **A way that can be gone can still be gone**, to the same place. -/
theorem Covers.walk (covers : Covers d d') (way : d.walk here names = .ok place) :
    d'.walk here names = .ok place := by
  induction names generalizing here with
  | nil => exact way
  | cons name names ih =>
    have folder := hasFolder_of_walk_cons way
    obtain ⟨mode, found⟩ := hasFolder_iff.mp folder
    obtain ⟨mode', found'⟩ := hasFolder_iff.mp (covers.folders here folder)
    simp only [Disk.walk, found, Option.isNone_iff_eq_none] at way
    simp only [Disk.walk, found', Option.isNone_iff_eq_none]
    split at way
    · rename_i dot
      rw [if_pos dot]
      exact ih way
    · rename_i dot
      rw [if_neg dot]
      split at way
      · rename_i up
        rw [if_pos up]
        exact ih way
      · rename_i up
        rw [if_neg up]
        split at way
        · cases way
        · rename_i short
          rw [if_neg short]
          split at way
          · cases way
          · rename_i next
            have there := covers.there _ (Option.isSome_iff_ne_none.mpr next)
            rw [if_neg (Option.isSome_iff_ne_none.mp there)]
            exact ih way

theorem Covers.locate (covers : Covers d d') (located : d.locate names = .ok place) :
    d'.locate names = .ok place := by
  obtain ⟨allowed, way⟩ := locate_ok_iff.mp located
  exact locate_ok_iff.mpr ⟨allowed, covers.walk way⟩

/-- The place of a path's last name is where the path leads once something stands there. -/
theorem Covers.locate_new (covers : Covers d d') (located : d.locateNew names = .ok place)
    (there : (d'.find? place).isSome = true) : d'.locate names = .ok place := by
  obtain ⟨allowed, parent, last, split_eq, ⟨noDot, name_ne, short⟩, way, folder, rfl⟩ :=
    locateNew_ok located
  have next : d'.walk parent [last] = .ok (parent ++ [last]) := by
    rw [walk_cons_of_hasFolder (covers.folders parent folder) name_ne, if_neg (by simp [noDot]),
      if_neg (by simp [short]), if_neg (Option.isSome_iff_ne_none.mp there)]
    rfl
  refine locate_ok_iff.mpr ⟨allowed, ?_⟩
  rw [split_eq, walk_append, covers.walk way]
  exact next

/-! ## Files -/

/-- The place of a file that is written along a path, whatever is written. -/
def fileAt (d : Disk) (names : List String) : Except Fault (List String) :=
  match d.stat names with
  | .ok (.folder _) => .error .isFolder
  | .ok (.file _) => d.locate names
  | .error _ => d.locateNew names

theorem store_eq (d : Disk) (names : List String) (bytes : List UInt8) :
    d.store names bytes = (d.fileAt names).map fun place => d.put place (.file bytes) := by
  unfold store fileAt
  rcases d.stat names with _ | _ | _
  · cases d.locateNew names <;> rfl
  · rfl
  · cases d.locate names <;> rfl

/-- No folder is where a file is written, and the path leads there once it is. -/
theorem fileAt_ok (h : d.fileAt names = .ok place) :
    d.hasFolder place = false ∧ ∀ d', Covers d d' → (d'.find? place).isSome = true →
      d'.locate names = .ok place := by
  unfold fileAt at h
  split at h
  · cases h
  · rename_i found
    obtain ⟨at_, located, file⟩ := stat_ok_iff.mp found
    rw [located] at h
    cases h
    exact ⟨hasFolder_eq_false_of_file file, fun d' covers _ => covers.locate located⟩
  · rename_i missing
    refine ⟨?_, fun d' covers there => covers.locate_new h there⟩
    -- If a folder were there, it would have been found along the path.
    by_contra folder
    rw [Bool.not_eq_false] at folder
    obtain ⟨mode, found⟩ := hasFolder_iff.mp folder
    have located := (Covers.refl d).locate_new h (isSome_of_hasFolder folder)
    rw [stat_ok_iff.mpr ⟨place, located, found⟩] at missing
    cases missing

/-- **What is written to a file is read back.** -/
theorem contents_of_store (stored : d.store names bytes = .ok d') :
    d'.contents names = .ok bytes := by
  rw [store_eq] at stored
  cases target : d.fileAt names with
  | error fault =>
    rw [target] at stored
    cases stored
  | ok place =>
    rw [target] at stored
    cases stored
    obtain ⟨noFolder, leads⟩ := fileAt_ok target
    have place_ne : place ≠ [] := by
      rintro rfl
      cases noFolder
    have found : (d.put place (.file bytes)).find? place = some (.file bytes) := by
      rw [find?_put_of_ne place_ne, if_pos rfl]
    have located := leads _ (covers_put place_ne noFolder _) (by rw [found]; rfl)
    rw [contents, stat_ok_iff.mpr ⟨place, located, found⟩]
    rfl

/-- Whether a file can be written along a path. -/
def Writable (d : Disk) (names : List String) : Prop := ∃ bytes d', d.store names bytes = .ok d'

/-- What is written does not decide whether it can be. -/
theorem Writable.store (writable : d.Writable names) (bytes : List UInt8) :
    ∃ d', d.store names bytes = .ok d' := by
  obtain ⟨other, d', stored⟩ := writable
  rw [store_eq] at stored
  rw [store_eq]
  cases target : d.fileAt names with
  | error fault =>
    rw [target] at stored
    cases stored
  | ok place => exact ⟨_, rfl⟩

end Disk

end QuerySession
