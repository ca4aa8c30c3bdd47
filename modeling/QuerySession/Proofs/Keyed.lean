import Mathlib.Data.List.Dedup
import Mathlib.Data.List.Nodup
import QuerySession.Keyed

/-!
# Look-ups in keyed collections

What changes of a collection do to its look-ups and to its size.
-/

namespace QuerySession

namespace Keyed

variable {α β : Type} [DecidableEq α]

/-- A look-up after a change: the changed value at that key, and the old answer elsewhere. -/
theorem find?_modify (m : Keyed α β) (k k' : α) (f : β → β) :
    (m.modify k f).find? k' = if k = k' then (m.find? k).map f else m.find? k' := by
  unfold modify
  cases known : m.find? k with
  | none =>
    by_cases same : k = k'
    · subst same
      simp [known]
    · simp [same]
  | some v => exact find?_put m k k' (f v)

/-- An entry stands in the collection exactly when the look-up finds it. -/
theorem mem_entries_iff {m : Keyed α β} {k : α} {v : β} :
    (k, v) ∈ m.entries ↔ m.find? k = some v := by
  obtain ⟨entries, distinct⟩ := m
  simp only [find?]
  induction entries with
  | nil => simp [findIn]
  | cons e rest ih =>
    obtain ⟨a, b⟩ := e
    have apart : a ∉ rest.map Prod.fst := (List.nodup_cons.mp distinct).1
    have inner := ih (List.nodup_cons.mp distinct).2
    by_cases same : a = k
    · subst same
      have absent : (a, v) ∉ rest := fun mem => apart (List.mem_map_of_mem mem)
      simp [findIn, absent, eq_comm]
    · have other : k ≠ a := fun e => same e.symm
      simp [findIn, same, other, inner]

/-- A key has an entry exactly when the look-up finds one. -/
theorem mem_keys_iff {m : Keyed α β} {k : α} : k ∈ m.keys ↔ (m.find? k).isSome = true := by
  rw [Option.isSome_iff_exists, keys, List.mem_map]
  constructor
  · rintro ⟨⟨key, v⟩, mem, rfl⟩
    exact ⟨v, mem_entries_iff.mp mem⟩
  · rintro ⟨v, found⟩
    exact ⟨(k, v), mem_entries_iff.mpr found, rfl⟩

/-- The value that stands at a key may be written there again. -/
theorem put_of_found {m : Keyed α β} {k : α} {v : β} (found : m.find? k = some v) :
    m.put k v = m := by
  obtain ⟨entries, distinct⟩ := m
  change findIn k entries = some v at found
  have same : putIn k v entries = entries := by
    clear distinct
    induction entries with
    | nil => cases found
    | cons e rest ih =>
      obtain ⟨a, b⟩ := e
      by_cases here : a = k
      · rw [findIn, if_pos here] at found
        rw [putIn, if_pos here, here, Option.some.inj found]
      · rw [findIn, if_neg here] at found
        rw [putIn, if_neg here, ih found]
  simp only [put, same]

/-- A value at a key that has one takes the place of the old one. -/
theorem size_put_of_found {m : Keyed α β} {k : α} {old : β} (found : m.find? k = some old) (v : β) :
    (m.put k v).size = m.size := by
  have known : k ∈ m.entries.map Prod.fst :=
    List.mem_map.mpr ⟨(k, old), mem_entries_iff.mpr found, rfl⟩
  have keys := congrArg List.length (map_fst_putIn k v m.entries)
  rw [if_pos known, List.length_map, List.length_map] at keys
  exact keys

/-- A value written adds one key at most. -/
theorem size_put_le (m : Keyed α β) (k : α) (v : β) : (m.put k v).size ≤ m.size + 1 := by
  have keys := congrArg List.length (map_fst_putIn k v m.entries)
  rw [List.length_map] at keys
  show (putIn k v m.entries).length ≤ m.entries.length + 1
  split at keys <;> simp only [List.length_map, List.length_append, List.length_singleton] at keys
  all_goals omega

theorem size_modify (m : Keyed α β) (k : α) (f : β → β) : (m.modify k f).size = m.size := by
  unfold modify
  cases found : m.find? k with
  | none => rfl
  | some v => exact size_put_of_found found (f v)

/-- There are as many entries as there are keys, if these are all the keys. -/
theorem size_eq_length_dedup {m : Keyed α β} {keys : List α}
    (all : ∀ key, (m.find? key).isSome ↔ key ∈ keys) : m.size = keys.dedup.length := by
  have perm : m.keys.Perm keys.dedup := by
    refine (List.perm_ext_iff_of_nodup m.distinct keys.nodup_dedup).mpr fun key => ?_
    rw [List.mem_dedup, ← all key, Option.isSome_iff_exists]
    simp only [← mem_entries_iff, List.mem_map, Prod.exists, exists_and_right, exists_eq_right]
  rw [← perm.length_eq]
  exact (List.length_map _).symm

/-- A look-up among the entries whose keys pass a test. -/
theorem find?_filter_key (m : Keyed α β) (p : α → Bool) (k : α) :
    (m.filter fun e => p e.1).find? k = if p k = true then m.find? k else none := by
  obtain ⟨entries, distinct⟩ := m
  simp only [find?, filter]
  clear distinct
  induction entries with
  | nil => simp [findIn]
  | cons e rest ih =>
    obtain ⟨a, b⟩ := e
    by_cases same : a = k
    · subst same
      cases passed : p a <;> simp [passed, findIn, ih]
    · cases passed : p a <;> simp [passed, findIn, same, ih]

omit [DecidableEq α] in
/-- Entries that pass two tests, one after the other. -/
theorem filter_filter (m : Keyed α β) (p q : α × β → Bool) :
    (m.filter p).filter q = m.filter fun e => q e && p e := by
  simp only [filter, List.filter_filter]

/-- What is written at a new key comes last. -/
theorem entries_put_of_unknown {m : Keyed α β} {k : α} (unknown : m.find? k = none) (v : β) :
    (m.put k v).entries = m.entries ++ [(k, v)] := by
  obtain ⟨entries, distinct⟩ := m
  show putIn k v entries = entries ++ [(k, v)]
  change findIn k entries = none at unknown
  clear distinct
  induction entries with
  | nil => rfl
  | cons e rest ih =>
    obtain ⟨a, b⟩ := e
    by_cases same : a = k
    · simp [findIn, same] at unknown
    · simp only [findIn, if_neg same] at unknown
      simp only [putIn, if_neg same, List.cons_append, ih unknown]

/-- New keys are written behind the others, in their order. -/
theorem entries_foldl_put (pairs : List (α × β)) (m : Keyed α β)
    (distinct : (m.entries.map Prod.fst ++ pairs.map Prod.fst).Nodup) :
    (pairs.foldl (fun m p => m.put p.1 p.2) m).entries = m.entries ++ pairs := by
  induction pairs generalizing m with
  | nil => exact (List.append_nil _).symm
  | cons p pairs ih =>
    have unknown : m.find? p.1 = none := by
      refine Option.eq_none_iff_forall_ne_some.mpr fun v found => ?_
      have known : p.1 ∈ m.entries.map Prod.fst :=
        List.mem_map.mpr ⟨_, mem_entries_iff.mpr found, rfl⟩
      exact (List.nodup_append.mp distinct).2.2 p.1 known p.1 List.mem_cons_self rfl
    have behind := entries_put_of_unknown unknown p.2
    rw [List.foldl_cons, ih, behind, List.append_assoc]
    · rfl
    · rw [behind]
      simpa using distinct

/-- The entries of a collection, written one after the other, are the collection again. -/
theorem ofList_entries (m : Keyed α β) : ofList m.entries = m := by
  have all : (ofList m.entries).entries = m.entries :=
    entries_foldl_put m.entries empty (by simpa [empty] using m.distinct)
  obtain ⟨entries, distinct⟩ := m
  cases made : ofList entries with
  | mk entries' _ =>
    rw [made] at all
    simp only at all
    subst all
    rfl

end Keyed

end QuerySession
