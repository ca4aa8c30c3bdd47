import Mathlib.Data.List.Induction
import QuerySession.Proofs.Keyed
import QuerySession.Storage.Shared

/-!
# Disks as trees

On a disk whatever stands somewhere stands in a folder.  The type of disks does not say so; it holds
of the empty disk, and everything that is done to a disk keeps it.

## Main Definitions

* `Disk.IsTree` — whatever stands at a place has a folder above it
* `Disk.Grown` — one disk is another with new folders
* `Disk.Remoded` — two disks that differ in the permission bits of folders only

## Main Results

* `Disk.find?_cut` — what stands at a place once something was cut off
* `Disk.IsTree.put`, `Disk.IsTree.cut`, `Disk.IsTree.add` — changes that keep a tree
-/

namespace QuerySession

namespace Disk

variable {d d' : Disk} {place other above : List String} {name : String} {entry : Entry}

/-! ## What stands at a place -/

theorem find?_top (d : Disk) : d.find? [] = some (.folder usualMode) := rfl

theorem hasFolder_iff : d.hasFolder place = true ↔ ∃ mode, d.find? place = some (.folder mode) := by
  unfold hasFolder
  cases d.find? place with
  | none => simp
  | some entry => cases entry <;> simp [Entry.isFolder]

theorem hasFolder_of_find? {mode : Nat} (h : d.find? place = some (.folder mode)) :
    d.hasFolder place = true := hasFolder_iff.mpr ⟨mode, h⟩

theorem isSome_of_hasFolder (h : d.hasFolder place = true) : (d.find? place).isSome = true := by
  obtain ⟨mode, found⟩ := hasFolder_iff.mp h
  rw [found]
  rfl

/-- A place with a folder has no file. -/
theorem hasFolder_eq_false_of_file {bytes : List UInt8} (h : d.find? place = some (.file bytes)) :
    d.hasFolder place = false := by
  rw [hasFolder, h]
  rfl

/-- Off the top, an entry that is put at a place is found there, and nothing else has changed. -/
theorem find?_put_of_ne (place_ne : place ≠ []) (entry : Entry) (other : List String) :
    (d.put place entry).find? other = if place = other then some entry else d.find? other := by
  rw [find?_put d place other entry place_ne]
  by_cases top : other = []
  · subst top
    rw [if_pos rfl, if_neg place_ne, find?_top]
  · rw [if_neg top]

/-- What stands at a place once everything at or below some place was cut off. -/
theorem find?_cut (d : Disk) (place other : List String) :
    (d.cut place).find? other =
      if other ≠ [] ∧ place <+: other then none else d.find? other := by
  have entries := Keyed.find?_filter_key d.entries (fun key => !place.isPrefixOf key) other
  unfold find?
  by_cases top : other = []
  · simp [top]
  · simp only [top, if_false, ne_eq, not_false_eq_true, true_and]
    refine entries.trans ?_
    by_cases below : place <+: other
    · rw [if_pos below, List.isPrefixOf_iff_prefix.mpr below]
      rfl
    · have apart : place.isPrefixOf other = false :=
        Bool.eq_false_iff.mpr fun h => below (List.isPrefixOf_iff_prefix.mp h)
      rw [if_neg below, apart]
      rfl

/-- Something stands below a place. -/
theorem hasBelow_iff : d.hasBelow place = true ↔
    ∃ other, place <+: other ∧ place ≠ other ∧ (d.find? other).isSome = true := by
  simp only [hasBelow, List.any_eq_true, isBelow, Bool.and_eq_true, List.isPrefixOf_iff_prefix,
    bne_iff_ne, ne_eq]
  constructor
  · rintro ⟨⟨other, entry⟩, mem, below, longer⟩
    have other_ne : other ≠ [] := by
      rintro rfl
      exact longer (by rw [List.prefix_nil.mp below])
    refine ⟨other, below, fun same => longer (by rw [same]), ?_⟩
    rw [find?, if_neg other_ne, Keyed.mem_entries_iff.mp mem]
    rfl
  · rintro ⟨other, below, apart, there⟩
    have other_ne : other ≠ [] := by
      rintro rfl
      exact apart (List.prefix_nil.mp below)
    rw [find?, if_neg other_ne] at there
    obtain ⟨entry, found⟩ := Option.isSome_iff_exists.mp there
    exact ⟨⟨other, entry⟩, Keyed.mem_entries_iff.mpr found, below,
      fun same => apart (below.eq_of_length same.symm)⟩

/-! ## Trees -/

/-- Whatever stands at a place has a folder above it. -/
def IsTree (d : Disk) : Prop :=
  ∀ place name, (d.find? (place ++ [name])).isSome = true → d.hasFolder place = true

theorem isTree_empty : empty.IsTree := by
  intro place name there
  rw [find?, if_neg (by simp)] at there
  cases there

namespace IsTree

/-- Above whatever stands at a place there are folders up to the top. -/
theorem hasFolder_above (tree : d.IsTree) (below : above <+: place) (apart : above ≠ place)
    (there : (d.find? place).isSome = true) : d.hasFolder above = true := by
  obtain ⟨rest, rfl⟩ := below
  induction rest using List.reverseRecOn with
  | nil => simp at apart
  | append_singleton rest name ih =>
    rw [← List.append_assoc] at there
    have parent := tree _ _ there
    by_cases last : above = above ++ rest
    · rwa [← last] at parent
    · exact ih last (isSome_of_hasFolder parent)

theorem isSome_above (tree : d.IsTree) (below : above <+: place)
    (there : (d.find? place).isSome = true) : (d.find? above).isSome = true := by
  by_cases same : above = place
  · rwa [same]
  · exact isSome_of_hasFolder (tree.hasFolder_above below same there)

theorem hasFolder_of_hasFolder (tree : d.IsTree) (below : above <+: place)
    (folder : d.hasFolder place = true) : d.hasFolder above = true := by
  by_cases same : above = place
  · rwa [same]
  · exact tree.hasFolder_above below same (isSome_of_hasFolder folder)

/-- Nothing stands below a place where nothing stands. -/
theorem find?_eq_none (tree : d.IsTree) (below : above <+: place) (nothing : d.find? above = none) :
    d.find? place = none := by
  cases found : d.find? place with
  | none => rfl
  | some entry =>
    have there := tree.isSome_above below (by rw [found]; rfl)
    rw [nothing] at there
    cases there

/-- An entry in a folder keeps a tree, unless it is a file in the place of a folder. -/
theorem put (tree : d.IsTree) (parent : d.hasFolder place = true)
    (kind : d.hasFolder (place ++ [name]) = true → entry.isFolder = true) :
    (d.put (place ++ [name]) entry).IsTree := by
  have place_ne : place ++ [name] ≠ [] := by simp
  have folder {q : List String} (h : d.hasFolder q = true) :
      (d.put (place ++ [name]) entry).hasFolder q = true := by
    rw [hasFolder, find?_put_of_ne place_ne]
    by_cases same : place ++ [name] = q
    · rw [if_pos same]
      exact kind (same ▸ h)
    · rwa [if_neg same]
  intro q n there
  rw [find?_put_of_ne place_ne] at there
  by_cases same : place ++ [name] = q ++ [n]
  · rw [← (List.append_inj' same rfl).1]
    exact folder parent
  · rw [if_neg same] at there
    exact folder (tree q n there)

/-- What is left of a tree when a place was cut off. -/
theorem cut (tree : d.IsTree) (place : List String) : (d.cut place).IsTree := by
  intro q n there
  rw [find?_cut] at there
  split at there
  · cases there
  · rename_i kept
    have apart : ¬place <+: q := fun below =>
      kept ⟨by simp, below.trans (List.prefix_append q [n])⟩
    rw [hasFolder, find?_cut, if_neg fun both => apart both.2]
    exact tree q n there

end IsTree

/-! ## Others add something -/

/-- What stands at a place after somebody tried to add an entry. -/
theorem find?_add (d : Disk) (place other : List String) (entry : Entry) :
    (d.add place entry).find? other =
      if place = other ∧ d.hasFolder place.dropLast = true ∧ d.find? place = none then some entry
      else d.find? other := by
  unfold add
  by_cases free : d.hasFolder place.dropLast = true ∧ d.find? place = none
  · have place_ne : place ≠ [] := by
      rintro rfl
      cases free.2
    rw [if_pos (by simp [free]), find?_put_of_ne place_ne]
    simp [free]
  · rw [if_neg fun both => free (by simpa using both), if_neg fun all => free all.2]

theorem IsTree.add (tree : d.IsTree) (place : List String) (entry : Entry) :
    (d.add place entry).IsTree := by
  unfold Disk.add
  split
  · rename_i free
    simp only [Bool.and_eq_true, Option.isNone_iff_eq_none] at free
    have place_ne : place ≠ [] := by
      rintro rfl
      cases free.2
    rw [← List.dropLast_append_getLast place_ne]
    refine tree.put free.1 fun folder => ?_
    rw [List.dropLast_append_getLast, hasFolder, free.2] at folder
    cases folder
  · exact tree

/-- Put entries at places, one after the other. -/
def addAll (d : Disk) (entries : List (List String × Entry)) : Disk :=
  entries.foldl (fun d e => d.add e.1 e.2) d

theorem IsTree.addAll (tree : d.IsTree) (entries : List (List String × Entry)) :
    (d.addAll entries).IsTree := by
  unfold Disk.addAll
  induction entries generalizing d with
  | nil => exact tree
  | cons e entries ih => exact ih (tree.add e.1 e.2)

/-! ## New folders -/

/-- The second disk is the first one with new folders, at places where `new` allows them. -/
structure Grown (new : List String → Prop) (d d' : Disk) : Prop where
  kept : ∀ place entry, d.find? place = some entry → d'.find? place = some entry
  fresh : ∀ place, d.find? place = none → (d'.find? place).isSome = true →
    d'.hasFolder place = true ∧ new place
  tree : d.IsTree → d'.IsTree

namespace Grown

variable {new new' : List String → Prop} {d₁ d₂ d₃ : Disk}

theorem refl (d : Disk) : Grown new d d where
  kept _ _ h := h
  fresh _ nothing there := by
    rw [nothing] at there
    cases there
  tree h := h

theorem hasFolder (grown : Grown new d₁ d₂) (folder : d₁.hasFolder place = true) :
    d₂.hasFolder place = true := by
  obtain ⟨mode, found⟩ := hasFolder_iff.mp folder
  exact hasFolder_of_find? (grown.kept place _ found)

theorem trans (first : Grown new d₁ d₂) (second : Grown new d₂ d₃) : Grown new d₁ d₃ where
  kept place entry found := second.kept place entry (first.kept place entry found)
  fresh place nothing there := by
    cases found : d₂.find? place with
    | none => exact second.fresh place found there
    | some entry =>
      obtain ⟨folder, allowed⟩ := first.fresh place nothing (by rw [found]; rfl)
      exact ⟨second.hasFolder folder, allowed⟩
  tree h := second.tree (first.tree h)

theorem mono (grown : Grown new d₁ d₂) (weaker : ∀ place, new place → new' place) :
    Grown new' d₁ d₂ where
  kept := grown.kept
  fresh place nothing there := (grown.fresh place nothing there).imp_right (weaker place)
  tree := grown.tree

/-- Where no new folder is allowed nothing new stands. -/
theorem find?_eq (grown : Grown new d₁ d₂) (old : new place → (d₁.find? place).isSome = true) :
    d₂.find? place = d₁.find? place := by
  cases found : d₁.find? place with
  | some entry => exact grown.kept place entry found
  | none =>
    by_contra there
    have allowed := (grown.fresh place found (Option.isSome_iff_ne_none.mpr there)).2
    rw [found] at old
    cases old allowed

end Grown

/-- A folder in another, where nothing stood. -/
theorem grown_put (parent : d.hasFolder place = true) (free : d.find? (place ++ [name]) = none)
    (mode : Nat) : Grown (· = place ++ [name]) d (d.put (place ++ [name]) (.folder mode)) where
  kept q entry found := by
    rw [find?_put_of_ne (by simp), if_neg, found]
    rintro rfl
    rw [free] at found
    cases found
  fresh q nothing there := by
    rw [find?_put_of_ne (by simp)] at there
    by_cases same : place ++ [name] = q
    · refine ⟨hasFolder_iff.mpr ⟨mode, ?_⟩, same.symm⟩
      rw [find?_put_of_ne (by simp), if_pos same]
    · rw [if_neg same, nothing] at there
      cases there
  tree h := h.put parent fun _ => rfl

/-! ## Other permission bits -/

/-- Nothing has changed but the permission bits of folders, at places where `touched` allows it. -/
structure Remoded (touched : List String → Prop) (d d' : Disk) : Prop where
  kept : ∀ place, ¬touched place → d'.find? place = d.find? place
  isSome : ∀ place, (d'.find? place).isSome = (d.find? place).isSome
  hasFolder : ∀ place, d'.hasFolder place = d.hasFolder place

namespace Remoded

variable {touched touched' : List String → Prop} {d₁ d₂ d₃ : Disk}

theorem refl (d : Disk) : Remoded touched d d := ⟨fun _ _ => rfl, fun _ => rfl, fun _ => rfl⟩

theorem trans (first : Remoded touched d₁ d₂) (second : Remoded touched d₂ d₃) :
    Remoded touched d₁ d₃ where
  kept place apart := (second.kept place apart).trans (first.kept place apart)
  isSome place := (second.isSome place).trans (first.isSome place)
  hasFolder place := (second.hasFolder place).trans (first.hasFolder place)

theorem mono (remoded : Remoded touched d₁ d₂) (weaker : ∀ place, touched place → touched' place) :
    Remoded touched' d₁ d₂ where
  kept place apart := remoded.kept place fun h => apart (weaker place h)
  isSome := remoded.isSome
  hasFolder := remoded.hasFolder

theorem tree (remoded : Remoded touched d₁ d₂) (tree : d₁.IsTree) : d₂.IsTree := by
  intro place name there
  rw [remoded.isSome] at there
  rw [remoded.hasFolder]
  exact tree place name there

end Remoded

/-- New folders with other permission bits are new folders. -/
theorem Grown.remoded {new touched : List String → Prop} {d₁ d₂ d₃ : Disk}
    (grown : Grown new d₁ d₂) (remoded : Remoded touched d₂ d₃)
    (fresh : ∀ place, touched place → d₁.find? place = none) : Grown new d₁ d₃ where
  kept place entry found := by
    rw [remoded.kept place, grown.kept place entry found]
    intro here
    rw [fresh place here] at found
    cases found
  fresh place nothing there := by
    rw [remoded.isSome] at there
    rw [remoded.hasFolder]
    exact grown.fresh place nothing there
  tree h := remoded.tree (grown.tree h)

/-- A folder with other permission bits. -/
theorem remoded_put (folder : d.hasFolder place = true) (mode : Nat) :
    Remoded (· = place) d (d.put place (.folder mode)) := by
  by_cases top : place = []
  · rw [top, put, if_pos rfl]
    exact .refl d
  · have look := find?_put_of_ne (d := d) top (.folder mode)
    refine ⟨fun q apart => ?_, fun q => ?_, fun q => ?_⟩
    · rw [look, if_neg (Ne.symm apart)]
    · rw [look]
      split
      · rename_i same
        rw [← same, isSome_of_hasFolder folder]
        rfl
      · rfl
    · rw [hasFolder, look]
      split
      · rename_i same
        rw [← same, folder]
        rfl
      · rfl

end Disk

end QuerySession
