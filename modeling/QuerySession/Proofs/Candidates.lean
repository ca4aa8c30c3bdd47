import Mathlib.Data.List.Basic
import QuerySession.Security.Registry

/-!
# The candidates for a tag

A candidate can serve a tag if it can be made, and has a tag of its own that is not blank and the same
up to ASCII case.  The choice among candidates goes by those that can serve the tag and by nothing
else.  Candidates that cannot might as well not be there, and the others may stand in any order: what
is found is the same, but for the order of the names of those that contest the tag.

## Main Definitions

* `Candidate.serves`, `Candidate.serving` — the candidates that can serve a tag
* `Resolution.Finding`, `Resolution.Finds` — what there is to find among candidates
* `Resolution.Rearranged` — candidates in another order, with others that cannot serve the tag

## Main Results

* `Resolution.select_of_finds` — the choice goes by what is found
* `Resolution.Finds.rearranged` — what is found does not depend on the arrangement
-/

namespace QuerySession

variable {tag : String} {candidates candidates' : List Candidate}

/-! ## Who can serve a tag -/

namespace Candidate

/-- Whether a candidate can serve a tag: it can be made, and has a tag of its own that is not blank
and the same up to ASCII case. -/
def serves (tag : String) (c : Candidate) : Bool :=
  c.factory.isSome && c.tag.any fun own => !Text.allBlank own && Text.equalUpToAsciiCase own tag

/-- The candidates that can serve a tag. -/
def serving (tag : String) (candidates : List Candidate) : List Candidate :=
  candidates.filter (serves tag)

/-- A candidate that can serve a tag can be made. -/
theorem factory_of_serves {c : Candidate} (h : c.serves tag = true) :
    ∃ factory, c.factory = some factory := by
  unfold serves at h
  rw [Bool.and_eq_true] at h
  exact Option.isSome_iff_exists.mp h.1

/-- A candidate fits exactly when it can serve the tag. -/
theorem fits_iff_serves {c : Candidate} {factory : Factory} :
    c.verdict tag = .fits factory ↔ c.serves tag = true ∧ c.factory = some factory := by
  rw [verdict_eq_fits_iff]
  constructor
  · rintro ⟨own, tagged, named, same, made_by⟩
    exact ⟨by simp [serves, tagged, named, same, made_by], made_by⟩
  · rintro ⟨fit, made_by⟩
    obtain ⟨own, tagged, named, same⟩ : ∃ own, c.tag = some own ∧ Text.allBlank own = false ∧
        Text.equalUpToAsciiCase own tag = true := by
      simpa [serves, made_by, Option.any_eq_true] using fit
    exact ⟨own, tagged, named, same, made_by⟩

/-- The candidates that fit are those that can serve the tag. -/
theorem matching_eq (tag : String) (candidates : List Candidate) :
    matching tag candidates =
      (serving tag candidates).filterMap fun c => c.factory.map (c.name, ·) := by
  rw [serving, List.filterMap_filter]
  apply List.filterMap_congr
  intro c _
  by_cases fit : c.serves tag = true
  · obtain ⟨factory, made_by⟩ := factory_of_serves fit
    rw [fits_iff_serves.mpr ⟨fit, made_by⟩, if_pos fit, made_by]
    rfl
  · rw [if_neg fit]
    cases found : c.verdict tag with
    | fits factory => exact absurd (fits_iff_serves.mp found).1 fit
    | _ => rfl

/-- Why a candidate cannot serve a tag. -/
inductive Idle (tag : String) (c : Candidate) : Prop
  | untagged (none_there : c.tag = none)
  | blank {own : String} (tagged : c.tag = some own) (blank : Text.allBlank own = true)
  | different {own : String} (tagged : c.tag = some own)
      (different : Text.equalUpToAsciiCase own tag = false)
  | unbuildable (none_there : c.factory = none)

theorem Idle.serves_eq {c : Candidate} (idle : c.Idle tag) : c.serves tag = false := by
  cases idle with
  | untagged none_there => simp [serves, none_there]
  | blank tagged blank => simp [serves, tagged, blank]
  | different tagged different => simp [serves, tagged, different]
  | unbuildable none_there => simp [serves, none_there]

end Candidate

namespace Resolution

open Candidate (serves serving)

/-! ## What there is to find -/

/-- What is found among candidates. -/
inductive Finding where
  /-- There is no tag to look for. -/
  | unset
  /-- No candidate can serve the tag. -/
  | unclaimed
  /-- One candidate can, and this is its factory. -/
  | sole (c : Candidate) (factory : Factory)
  /-- Several candidates can; these are their names. -/
  | contested (names : List String)

/-- What there is to find for a tag. -/
inductive Finds (tag : String) (candidates : List Candidate) : Finding → Prop
  | unset (blank : Text.allBlank tag = true) : Finds tag candidates .unset
  | unclaimed (asked : Text.allBlank tag = false) (nobody : serving tag candidates = []) :
      Finds tag candidates .unclaimed
  | sole {c : Candidate} {factory : Factory} (asked : Text.allBlank tag = false)
      (alone : serving tag candidates = [c]) (made_by : c.factory = some factory) :
      Finds tag candidates (.sole c factory)
  | contested (asked : Text.allBlank tag = false) (several : 2 ≤ (serving tag candidates).length) :
      Finds tag candidates (.contested ((serving tag candidates).map Candidate.name))

/-- The candidate that is chosen, by its name and factory, or why there is none. -/
def Finding.choice (kind : ExtensionKind) (tag : String) :
    Finding → Except String (String × Factory)
  | unset => .error ("No " ++ kind.describe ++ " type configured")
  | unclaimed =>
    .error ("Failed to find the " ++ kind.describe ++ " implementation for type '" ++ tag ++ "'")
  | sole c factory => .ok (c.name, factory)
  | contested names =>
    .error ("Type '" ++ tag ++ "' is claimed by several " ++ kind.describe ++
      " implementations: " ++ ", ".intercalate names)

/-- Something is found among any candidates. -/
theorem exists_finds (tag : String) (candidates : List Candidate) :
    ∃ finding, Finds tag candidates finding := by
  cases asked : Text.allBlank tag with
  | true => exact ⟨_, .unset asked⟩
  | false =>
    cases there : serving tag candidates with
    | nil => exact ⟨_, .unclaimed asked there⟩
    | cons c rest =>
      cases rest with
      | nil =>
        have member : c ∈ serving tag candidates := there ▸ List.mem_singleton_self c
        obtain ⟨factory, made_by⟩ := Candidate.factory_of_serves (List.mem_filter.mp member).2
        exact ⟨_, .sole asked there made_by⟩
      | cons second rest => exact ⟨_, .contested asked (by simp [there])⟩

/-- Candidates that can be made are all matched with their names. -/
theorem matching_names (tag : String) (candidates : List Candidate) :
    (Candidate.matching tag candidates).map Prod.fst =
      (serving tag candidates).map Candidate.name := by
  rw [Candidate.matching_eq, List.map_filterMap]
  have makeable : ∀ c ∈ serving tag candidates,
      (c.factory.map (c.name, ·)).map Prod.fst = some c.name := by
    intro c member
    obtain ⟨factory, made_by⟩ := Candidate.factory_of_serves (List.mem_filter.mp member).2
    rw [made_by]
    rfl
  rw [List.filterMap_congr makeable]
  exact congrFun List.filterMap_eq_map _

/-- **The choice** goes by what is found. -/
theorem select_of_finds (kind : ExtensionKind) {finding : Finding}
    (found : Finds tag candidates finding) :
    select kind tag candidates = finding.choice kind tag := by
  unfold select
  cases found with
  | unset blank => rw [if_pos blank]; rfl
  | unclaimed asked nobody => rw [asked, Candidate.matching_eq, nobody]; rfl
  | sole asked alone made_by =>
    rw [asked, Candidate.matching_eq, alone, List.filterMap_cons, made_by]
    rfl
  | contested asked several =>
    have names := matching_names tag candidates
    have many : 2 ≤ (Candidate.matching tag candidates).length := by
      have lengths := congrArg List.length names
      rw [List.length_map, List.length_map] at lengths
      rw [lengths]
      exact several
    rw [asked, ← names]
    generalize Candidate.matching tag candidates = matched at many
    cases matched with
    | nil => simp at many
    | cons first rest =>
      cases rest with
      | nil => simp at many
      | cons second rest => rfl

/-! ## Other arrangements -/

/-- Candidates in another order, with others in between that cannot serve the tag. -/
inductive Rearranged (tag : String) : List Candidate → List Candidate → Prop
  | permuted {candidates candidates' : List Candidate} (same : candidates.Perm candidates') :
      Rearranged tag candidates candidates'
  | inserted {c : Candidate} (before after : List Candidate) (idle : c.Idle tag) :
      Rearranged tag (before ++ after) (before ++ c :: after)
  | trans {first second third : List Candidate} (one : Rearranged tag first second)
      (two : Rearranged tag second third) : Rearranged tag first third

/-- Who can serve the tag does not depend on the arrangement. -/
theorem Rearranged.serving_perm (h : Rearranged tag candidates candidates') :
    (serving tag candidates).Perm (serving tag candidates') := by
  induction h with
  | permuted same => exact same.filter _
  | inserted before after idle =>
    have unfit : ¬ serves tag _ = true := ne_true_of_eq_false idle.serves_eq
    unfold serving
    rw [List.filter_append, List.filter_append, List.filter_cons_of_neg unfit]
  | trans _ _ one two => exact one.trans two

/-- The same is found, but for the order of the names of those that contest the tag. -/
inductive Finding.Like : Finding → Finding → Prop
  | same (finding : Finding) : Finding.Like finding finding
  | contested {names names' : List String} (same : names.Perm names') :
      Finding.Like (.contested names) (.contested names')

/-- **What is found** does not depend on the arrangement. -/
theorem Finds.rearranged {finding : Finding} (found : Finds tag candidates finding)
    (h : Rearranged tag candidates candidates') :
    ∃ finding', Finds tag candidates' finding' ∧ finding.Like finding' := by
  have same := h.serving_perm
  cases found with
  | unset blank => exact ⟨_, .unset blank, .same _⟩
  | unclaimed asked nobody =>
    rw [nobody] at same
    exact ⟨_, .unclaimed asked same.nil_eq.symm, .same _⟩
  | sole asked alone made_by =>
    rw [alone] at same
    exact ⟨_, .sole asked same.singleton_eq.symm made_by, .same _⟩
  | contested asked several =>
    exact ⟨_, .contested asked (same.length_eq ▸ several), .contested (same.map _)⟩

/-- Only one thing is found. -/
theorem Finds.unique {finding finding' : Finding} (found : Finds tag candidates finding)
    (found' : Finds tag candidates finding') : finding = finding' := by
  cases found <;> cases found' <;> simp_all

end Resolution

end QuerySession
