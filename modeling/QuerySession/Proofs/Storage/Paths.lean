import QuerySession.Proofs.Action
import QuerySession.Proofs.Storage.Tree

/-!
# Where paths lead

A path without names of two dots leads to the place with its names, less the single dots.  Whether
the way can be gone depends on what stands at this place and above it.

## Main Results

* `Disk.walk_ok` — a path that leads somewhere leads down its names
* `Disk.IsTree.walk_of_hasFolder` — the way to a folder can be gone
* `Disk.IsTree.find?_of_walk_notFound` — a way that ends for want of something ends at no entry
* `Disk.IsTree.walk_of_clear` — the way along folders, for names that are ordinary

## Implementation Notes

A disk may have entries with names that the operating system does not accept.  They do no harm, since
they cannot be reached along a path.
-/

namespace QuerySession

namespace Disk

variable {d d' : Disk} {names rest here place : List String} {name : String}

/-! ### Names -/

theorem withoutDots_append (a b : List String) :
    withoutDots (a ++ b) = withoutDots a ++ withoutDots b := List.filter_append ..

theorem withoutDots_above {a b : List String} (h : a <+: b) : withoutDots a <+: withoutDots b :=
  h.filter _

theorem withoutDots_cons_of_isDot (h : isDot name = true) :
    withoutDots (name :: names) = withoutDots names := by simp [withoutDots, h]

theorem append_withoutDots_cons (h : isDot name = false) (here : List String) :
    here ++ withoutDots (name :: names) = here ++ [name] ++ withoutDots names := by
  simp [withoutDots, h]

theorem not_mem_withoutDots (plain : ".." ∉ names) : ".." ∉ withoutDots names :=
  fun mem => plain (List.mem_of_mem_filter mem)

/-- A name that the operating system accepts and that leads down. -/
theorem isOrdinary_iff : isOrdinary name = true ↔
    name ≠ "" ∧ isDot name = false ∧ name ≠ ".." ∧ isTooLong name = false ∧
      name.toList.contains '\x00' = false ∧ name.toList.contains '/' = false := by
  simp only [isOrdinary, isDot, Bool.and_eq_true, bne_iff_ne, ne_eq, Bool.not_eq_true',
    beq_eq_false_iff_ne, and_assoc]

/-- Names that the operating system accepts and that lead down. -/
def Ordinary (names : List String) : Prop := ∀ name ∈ names, isOrdinary name = true

instance (names : List String) : Decidable (Ordinary names) :=
  inferInstanceAs (Decidable (∀ name ∈ names, isOrdinary name = true))

namespace Ordinary

theorem plain (h : Ordinary names) : ".." ∉ names :=
  fun mem => (isOrdinary_iff.mp (h _ mem)).2.2.1 rfl

theorem short (h : Ordinary names) : ∀ name ∈ names, isTooLong name = false :=
  fun name mem => (isOrdinary_iff.mp (h name mem)).2.2.2.1

theorem withoutDots_eq (h : Ordinary names) : withoutDots names = names :=
  List.filter_eq_self.mpr fun name mem => by simp [(isOrdinary_iff.mp (h name mem)).2.1]

theorem of_above (h : Ordinary names) (below : place <+: names) : Ordinary place :=
  fun name mem => h name (below.subset mem)

/-- A folder with an ordinary name can be removed. -/
theorem lastNameFault?_eq (h : Ordinary names) (names_ne : names ≠ []) :
    lastNameFault? names = none := by
  have last := isOrdinary_iff.mp (h _ (List.getLast_mem names_ne))
  simp only [lastNameFault?, List.getLast?_eq_some_getLast names_ne, last.2.1, last.2.2.1,
    Bool.false_eq_true, if_false]

end Ordinary

/-! ### Paths that are refused unseen -/

theorem pathSize_append (a b : List String) : pathSize (a ++ b) = pathSize a + pathSize b := by
  induction a with
  | nil => simp [pathSize]
  | cons name a ih =>
    simp only [pathSize, List.cons_append, List.foldr_cons] at ih ⊢
    omega

theorem refusal?_nil : refusal? [] = none := rfl

/-- What is accepted as a path is accepted as the beginning of one. -/
theorem refusal?_of_above (above : place <+: names) (allowed : refusal? names = none) :
    refusal? place = none := by
  obtain ⟨rest, rfl⟩ := above
  unfold refusal? at allowed ⊢
  rw [List.any_append, pathSize_append] at allowed
  split at allowed
  · cases allowed
  · rename_i clean
    simp only [Bool.or_eq_true, not_or] at clean
    rw [if_neg clean.1]
    split at allowed
    · cases allowed
    · rw [if_neg (by omega)]

theorem pathSize_filter_le (p : String → Bool) (names : List String) :
    pathSize (names.filter p) ≤ pathSize names := by
  induction names with
  | nil => simp
  | cons name names ih =>
    rw [List.filter_cons]
    split <;> simp only [pathSize, List.foldr_cons] at ih ⊢ <;> omega

/-- What is accepted as a path is accepted without dots. -/
theorem refusal?_withoutDots (allowed : refusal? names = none) :
    refusal? (withoutDots names) = none := by
  have shorter : pathSize (withoutDots names) ≤ pathSize names := pathSize_filter_le ..
  unfold refusal? at allowed ⊢
  split at allowed
  · cases allowed
  · rename_i clean
    have still : ¬(withoutDots names).any (fun n => n.toList.contains '\x00') = true := by
      intro dirty
      obtain ⟨name, mem, bad⟩ := List.any_eq_true.mp dirty
      exact clean (List.any_eq_true.mpr ⟨name, List.mem_of_mem_filter mem, bad⟩)
    rw [if_neg still]
    split at allowed
    · cases allowed
    · rw [if_neg (by omega)]

/-! ### Walking -/

theorem walk_append (d : Disk) (here names rest : List String) :
    d.walk here (names ++ rest) = (d.walk here names).bind fun place => d.walk place rest := by
  induction names generalizing here with
  | nil => rfl
  | cons name names ih =>
    simp only [List.cons_append, walk]
    cases d.find? here with
    | none => rfl
    | some entry =>
      cases entry with
      | file => rfl
      | folder =>
        dsimp only
        split
        · exact ih here
        · split
          · exact ih here.dropLast
          · split
            · rfl
            · split
              · rfl
              · exact ih (here ++ [name])

/-- One name from a folder, other than two dots: it stays there or leads to what has this name. -/
theorem walk_cons_of_hasFolder (folder : d.hasFolder here = true) (name_ne : name ≠ "..")
    (names : List String) :
    d.walk here (name :: names) =
      if isDot name = true then d.walk here names
      else if isTooLong name = true then .error .nameTooLong
      else if d.find? (here ++ [name]) = none then .error .notFound
      else d.walk (here ++ [name]) names := by
  obtain ⟨mode, found⟩ := hasFolder_iff.mp folder
  simp only [walk, found, name_ne, if_false, Option.isNone_iff_eq_none]

/-- Names lead on from folders only. -/
theorem hasFolder_of_walk_cons (h : d.walk here (name :: names) = .ok place) :
    d.hasFolder here = true := by
  cases found : d.find? here with
  | none => simp [walk, found] at h
  | some entry =>
    cases entry with
    | file => simp [walk, found] at h
    | folder mode => exact hasFolder_of_find? found

/-- A path that leads somewhere leads down its names, which are none too long. -/
theorem walk_ok (plain : ".." ∉ names) (h : d.walk here names = .ok place) :
    place = here ++ withoutDots names ∧ ∀ name ∈ names, isTooLong name = false := by
  induction names generalizing here with
  | nil =>
    cases h
    simp [withoutDots]
  | cons name names ih =>
    have name_ne : name ≠ ".." := (List.ne_of_not_mem_cons plain).symm
    have inner : ".." ∉ names := List.not_mem_of_not_mem_cons plain
    rw [walk_cons_of_hasFolder (hasFolder_of_walk_cons h) name_ne] at h
    split at h
    · rename_i dot
      have short : isTooLong name = false := by rw [beq_iff_eq.mp dot]; decide
      obtain ⟨eq, others⟩ := ih inner h
      exact ⟨by rw [eq, withoutDots_cons_of_isDot dot], List.forall_mem_cons.mpr ⟨short, others⟩⟩
    · rename_i dot
      split at h
      · cases h
      · rename_i short
        split at h
        · cases h
        · obtain ⟨eq, others⟩ := ih inner h
          refine ⟨?_, List.forall_mem_cons.mpr ⟨Bool.eq_false_iff.mpr short, others⟩⟩
          rw [eq, append_withoutDots_cons (Bool.eq_false_iff.mpr dot)]

/-- The way to a folder can be gone. -/
theorem IsTree.walk_of_hasFolder (tree : d.IsTree) (plain : ".." ∉ names)
    (short : ∀ name ∈ names, isTooLong name = false)
    (folder : d.hasFolder (here ++ withoutDots names) = true) :
    d.walk here names = .ok (here ++ withoutDots names) := by
  induction names generalizing here with
  | nil => simp [walk, withoutDots]
  | cons name names ih =>
    have name_ne : name ≠ ".." := (List.ne_of_not_mem_cons plain).symm
    have inner : ".." ∉ names := List.not_mem_of_not_mem_cons plain
    obtain ⟨name_short, names_short⟩ := List.forall_mem_cons.mp short
    have start : d.hasFolder here = true :=
      tree.hasFolder_of_hasFolder (List.prefix_append ..) folder
    rw [walk_cons_of_hasFolder start name_ne]
    cases dot : isDot name with
    | true =>
      rw [withoutDots_cons_of_isDot dot] at folder ⊢
      rw [if_pos rfl, ih inner names_short folder]
    | false =>
      rw [append_withoutDots_cons dot] at folder ⊢
      have next : d.hasFolder (here ++ [name]) = true :=
        tree.hasFolder_of_hasFolder (List.prefix_append ..) folder
      have there : d.find? (here ++ [name]) ≠ none :=
        Option.isSome_iff_ne_none.mp (isSome_of_hasFolder next)
      rw [if_neg Bool.false_ne_true, if_neg (by simp [name_short]), if_neg there,
        ih inner names_short folder]

/-- The way to a folder can be gone from the top. -/
theorem IsTree.walk_top (tree : d.IsTree) (plain : ".." ∉ names)
    (short : ∀ name ∈ names, isTooLong name = false)
    (folder : d.hasFolder (withoutDots names) = true) :
    d.walk [] names = .ok (withoutDots names) := tree.walk_of_hasFolder plain short folder

/-- A way that ends for want of something would have led to a place where nothing stands. -/
theorem IsTree.find?_of_walk_notFound (tree : d.IsTree) (plain : ".." ∉ names)
    (h : d.walk here names = .error .notFound) : d.find? (here ++ withoutDots names) = none := by
  induction names generalizing here with
  | nil => cases h
  | cons name names ih =>
    have name_ne : name ≠ ".." := (List.ne_of_not_mem_cons plain).symm
    have inner : ".." ∉ names := List.not_mem_of_not_mem_cons plain
    cases found : d.find? here with
    | none => exact tree.find?_eq_none (List.prefix_append ..) found
    | some entry =>
      cases entry with
      | file => simp [walk, found] at h
      | folder mode =>
        rw [walk_cons_of_hasFolder (hasFolder_of_find? found) name_ne] at h
        split at h
        · rename_i dot
          rw [withoutDots_cons_of_isDot dot]
          exact ih inner h
        · rename_i dot
          rw [append_withoutDots_cons (Bool.eq_false_iff.mpr dot)]
          split at h
          · cases h
          · split at h
            · rename_i nothing
              exact tree.find?_eq_none (List.prefix_append ..) nothing
            · exact ih inner h

/-! ### Ordinary names -/

/-- Whatever stands at a place or above it is a folder. -/
def Clear (d : Disk) (place : List String) : Prop :=
  ∀ above, above <+: place → (d.find? above).isSome = true → d.hasFolder above = true

theorem Clear.of_above (clear : d.Clear names) (above : place <+: names) : d.Clear place :=
  fun q h => clear q (h.trans above)

theorem IsTree.clear (tree : d.IsTree) (folder : d.hasFolder place = true) : d.Clear place :=
  fun _ above _ => tree.hasFolder_of_hasFolder above folder

/-- The way to a place in a folder can be gone if something stands at the place. -/
theorem IsTree.walk_inside (tree : d.IsTree) (ordinary : Ordinary (names ++ [name]))
    (folder : d.hasFolder names = true) :
    d.walk [] (names ++ [name]) =
      if d.find? (names ++ [name]) = none then .error .notFound else .ok (names ++ [name]) := by
  have inner := ordinary.of_above (List.prefix_append names [name])
  obtain ⟨-, dot, name_ne, short, -, -⟩ :=
    isOrdinary_iff.mp (ordinary name (List.mem_append_right _ List.mem_cons_self))
  have arrived : d.walk [] names = .ok names := by
    have way := tree.walk_top inner.plain inner.short (by rwa [inner.withoutDots_eq])
    rwa [inner.withoutDots_eq] at way
  rw [walk_append, arrived]
  show d.walk names [name] = _
  rw [walk_cons_of_hasFolder folder name_ne, if_neg (by simp [dot]), if_neg (by simp [short])]
  rfl

/-- The way along folders: it can be gone if something stands at its end. -/
theorem IsTree.walk_of_clear (tree : d.IsTree) (ordinary : Ordinary names) (clear : d.Clear names) :
    d.walk [] names = if d.find? names = none then .error .notFound else .ok names := by
  induction names using List.reverseRecOn with
  | nil => rfl
  | append_singleton names name ih =>
    cases found : d.find? names with
    | none =>
      have inner := ordinary.of_above (List.prefix_append names [name])
      rw [walk_append, ih inner (clear.of_above (List.prefix_append ..)), if_pos found,
        if_pos (tree.find?_eq_none (List.prefix_append ..) found)]
      rfl
    | some entry =>
      exact tree.walk_inside ordinary (clear names (List.prefix_append ..) (by rw [found]; rfl))

/-- The way to whatever stands at a place can be gone. -/
theorem IsTree.walk_of_isSome (tree : d.IsTree) (ordinary : Ordinary names)
    (there : (d.find? names).isSome = true) : d.walk [] names = .ok names := by
  cases names using List.reverseRecOn with
  | nil => rfl
  | append_singleton names name =>
    rw [tree.walk_inside ordinary (tree names name there),
      if_neg (Option.isSome_iff_ne_none.mp there)]

/-! ### Locating -/

/-- A path that denotes a place is accepted, and the way to the place can be gone. -/
theorem locate_ok_iff : d.locate names = .ok place ↔
    refusal? names = none ∧ d.walk [] names = .ok place := by
  unfold locate
  cases refusal? names with
  | none => simp
  | some fault => simp

theorem locate_of_allowed (allowed : refusal? names = none) : d.locate names = d.walk [] names := by
  rw [locate, allowed]

/-- What a path without double dots denotes. -/
theorem eq_withoutDots_of_locate (plain : ".." ∉ names) (h : d.locate names = .ok place) :
    place = withoutDots names := (walk_ok plain (locate_ok_iff.mp h).2).1

/-- What is found along a path stands at the place that the path denotes. -/
theorem stat_ok_iff {entry : Entry} : d.stat names = .ok entry ↔
    ∃ place, d.locate names = .ok place ∧ d.find? place = some entry := by
  refine bind_eq_ok_iff.trans (exists_congr fun place => and_congr_right fun _ => ?_)
  cases d.find? place <;> simp

/-- What is found along a path without double dots stands below its names. -/
theorem find?_of_stat (plain : ".." ∉ names) {entry : Entry} (h : d.stat names = .ok entry) :
    d.find? (withoutDots names) = some entry := by
  obtain ⟨place, at_, found⟩ := stat_ok_iff.mp h
  rwa [← eq_withoutDots_of_locate plain at_]

/-- A path along which something is found is accepted. -/
theorem allowed_of_stat {entry : Entry} (h : d.stat names = .ok entry) : refusal? names = none := by
  obtain ⟨_, at_, -⟩ := stat_ok_iff.mp h
  exact (locate_ok_iff.mp at_).1

/-- The names of a path along which something is found are none too long. -/
theorem short_of_stat (plain : ".." ∉ names) {entry : Entry} (h : d.stat names = .ok entry) :
    ∀ name ∈ names, isTooLong name = false := by
  obtain ⟨_, at_, -⟩ := stat_ok_iff.mp h
  exact (walk_ok plain (locate_ok_iff.mp at_).2).2

/-- What stands at a place of ordinary names is found along its path. -/
theorem IsTree.stat_of_find? (tree : d.IsTree) (ordinary : Ordinary names)
    (allowed : refusal? names = none) {entry : Entry} (found : d.find? names = some entry) :
    d.stat names = .ok entry := by
  have way := tree.walk_of_isSome ordinary (by rw [found]; rfl)
  exact stat_ok_iff.mpr ⟨names, locate_ok_iff.mpr ⟨allowed, way⟩, found⟩

/-- A path that is refused unseen is not one at which nothing was found. -/
theorem allowed_of_stat_notFound (h : d.stat names = .error .notFound) : refusal? names = none := by
  cases refused : refusal? names with
  | none => rfl
  | some fault =>
    have told : d.stat names = .error fault := by
      rw [stat, locate, refused]
      rfl
    rw [told] at h
    cases h
    unfold refusal? at refused
    split at refused
    · cases refused
    · split at refused <;> cases refused

/-- Nothing stands where a path without double dots leads if it is told that nothing is found. -/
theorem IsTree.find?_of_stat_notFound (tree : d.IsTree) (plain : ".." ∉ names)
    (h : d.stat names = .error .notFound) : d.find? (withoutDots names) = none := by
  have allowed := allowed_of_stat_notFound h
  unfold stat at h
  rw [locate_of_allowed allowed] at h
  cases way : d.walk [] names with
  | error fault =>
    simp only [way, bind, Except.bind] at h
    cases h
    exact tree.find?_of_walk_notFound plain way
  | ok place =>
    have place_eq : place = withoutDots names := (walk_ok plain way).1
    subst place_eq
    cases found : d.find? (withoutDots names) with
    | none => rfl
    | some entry => simp [way, bind, Except.bind, found] at h

end Disk

end QuerySession
