/-!
# Splitting and joining

A text is cut at every occurrence of a separator, so that `n` separators make `n + 1` pieces, some
of them perhaps empty; joining puts the separators back. Both are the list operations
`List.splitOn` and `List.intercalate` on the characters.

## Main Definitions

* `split` — the pieces of a text
* `joinWith` — the pieces with one separator between neighbours

## Main Results

* `joinWith_split` — joining undoes splitting
* `split_append_sep` — splitting at a separator splits both sides on their own
* `split_joinWith` — splitting undoes joining, if no piece contains the separator
-/

namespace QuerySession.Text

/-- The pieces of a text between occurrences of `sep`. -/
def split (sep : Char) (s : String) : List String :=
  (s.toList.splitOn sep).map String.ofList

/-- A text from pieces, with `sep` between neighbours. -/
def joinWith (sep : Char) (pieces : List String) : String :=
  String.ofList ([sep].intercalate (pieces.map String.toList))

/-- The pieces as lists of characters. -/
theorem map_toList_split (sep : Char) (s : String) :
    (split sep s).map String.toList = s.toList.splitOn sep := by
  rw [split, List.map_map]
  exact List.map_id'' (fun _ => String.toList_ofList) _

/-- **Splitting undoes joining**, if there are pieces and none contains the separator. -/
theorem split_joinWith {sep : Char} {pieces : List String} (some_ : pieces ≠ [])
    (absent : ∀ piece ∈ pieces, sep ∉ piece.toList) : split sep (joinWith sep pieces) = pieces := by
  have chars : List.splitOn sep ([sep].intercalate (pieces.map String.toList)) =
      pieces.map String.toList := by
    apply List.splitOn_intercalate
    · intro piece mem
      obtain ⟨text, known, rfl⟩ := List.mem_map.mp mem
      exact absent text known
    · simpa using some_
  rw [split, joinWith, String.toList_ofList, chars, List.map_map]
  exact List.map_id'' (fun _ => String.ofList_toList) pieces

/-- **Joining undoes splitting.** -/
theorem joinWith_split (sep : Char) (s : String) : joinWith sep (split sep s) = s := by
  rw [joinWith, map_toList_split, List.intercalate_splitOn, String.ofList_toList]

/-- Splitting at a separator splits both sides on their own. -/
theorem split_append_sep (sep : Char) (a b : String) :
    split sep (a ++ String.singleton sep ++ b) = split sep a ++ split sep b := by
  have chars : (a ++ String.singleton sep ++ b).toList = a.toList ++ sep :: b.toList := by simp
  rw [split, chars, List.splitOn_append_cons_self, List.map_append]
  rfl

/-- A text without the separator is its only piece. -/
theorem split_of_not_mem {sep : Char} {s : String} (absent : sep ∉ s.toList) :
    split sep s = [s] := by
  rw [split, List.splitOn_eq_singleton absent, List.map_singleton, String.ofList_toList]

/-- The separator is in no part of a list split at it. -/
theorem not_mem_of_mem_splitOn {sep : Char} {cs piece : List Char} (mem : piece ∈ cs.splitOn sep) :
    sep ∉ piece := by
  induction cs generalizing piece with
  | nil => simp_all
  | cons c cs ih =>
    obtain ⟨first, rest, cut⟩ := List.exists_cons_of_ne_nil (List.splitOn_ne_nil sep cs)
    rw [List.splitOn_cons_eq_if_modifyHead, cut] at mem
    rw [cut] at ih
    by_cases same : c = sep
    · obtain rfl | later : piece = [] ∨ piece ∈ first :: rest := by simpa [same] using mem
      · exact List.not_mem_nil
      · exact ih later
    · obtain rfl | later : piece = c :: first ∨ piece ∈ rest := by simpa [same] using mem
      · simp [Ne.symm same, ih List.mem_cons_self]
      · exact ih (List.mem_cons_of_mem _ later)

/-- No piece contains the separator. -/
theorem not_mem_of_mem_split {sep : Char} {s piece : String} (mem : piece ∈ split sep s) :
    sep ∉ piece.toList := by
  obtain ⟨chars, inside, rfl⟩ := List.mem_map.mp mem
  rw [String.toList_ofList]
  exact not_mem_of_mem_splitOn inside

/-- There is always a piece. -/
theorem split_ne_nil (sep : Char) (s : String) : split sep s ≠ [] := by
  rw [split, Ne, List.map_eq_nil_iff]
  exact List.splitOn_ne_nil sep s.toList

end QuerySession.Text
