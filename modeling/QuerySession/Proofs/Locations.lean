import Mathlib.Data.List.Count
import Mathlib.Data.List.Nodup
import QuerySession.Proofs.Keyed
import QuerySession.Session.Locations

/-!
# The single steps of the locations

What `Locations.enter`, `Locations.settle` and `Locations.drain` do to the look-ups and to the
listing of the locations.  Nothing else is known of the three wherever they are used.
-/

namespace QuerySession

namespace Locations

variable {l : Locations} {path other : StoragePath} {storage : String}

/-! ### Coming to know a location -/

/-- What is known of a location that was asked for: what was known, or that it is new. -/
theorem find?_enter (l : Locations) (path : StoragePath) (storage : String) (other : StoragePath) :
    (l.enter path storage).2.known.find? other =
      if path = other then some (l.enter path storage).1 else l.known.find? other := by
  unfold enter
  cases known : l.known.find? path with
  | some location =>
    by_cases same : path = other
    · subst same
      simp [known]
    · simp [same]
  | none => exact Keyed.find?_put ..

/-- A location that is known stays as it is. -/
theorem enter_eq_of_known {location : Location} (known : l.known.find? path = some location) :
    l.enter path storage = (location, l) := by
  simp only [enter, known]

/-- A location that is not known gets the storage that was named. -/
theorem enter_eq_of_unknown (unknown : l.known.find? path = none) :
    l.enter path storage =
      (⟨storage, false⟩, { l with known := l.known.put path ⟨storage, false⟩ }) := by
  simp only [enter, unknown]

@[simp] theorem sessionId_enter : (l.enter path storage).2.sessionId = l.sessionId := by
  unfold enter
  split <;> rfl

@[simp] theorem closed_enter : (l.enter path storage).2.closed = l.closed := by
  unfold enter
  split <;> rfl

/-! ### Noting that a location is there -/

/-- Settling marks one location and leaves the storages alone. -/
theorem find?_settle (l : Locations) (path other : StoragePath) :
    (l.settle path).known.find? other =
      if path = other then (l.known.find? path).map fun location => ⟨location.storage, true⟩
      else l.known.find? other :=
  Keyed.find?_modify ..

/-- Of the locations that are known, settling makes one ready. -/
theorem contains_settle {location : Location} (known : l.known.find? path = some location)
    (other : StoragePath) :
    (l.settle path).contains other = if path = other then true else l.contains other := by
  unfold contains
  rw [find?_settle]
  split <;> simp [known]

/-! ### The end -/

@[simp] theorem closed_drain : l.drain.2.closed = true := rfl

/-- Draining what was drained changes nothing. -/
theorem drain_of_drained (shut : l.closed = true) (nothing : l.known = .empty) :
    l.drain = ([], l) := by
  obtain ⟨sessionId, known, closed, spans⟩ := l
  cases shut
  cases nothing
  rfl

/-- What is drained are the locations that are ready, each with the storage it is known by. -/
theorem mem_drain_iff {e : StoragePath × String} :
    e ∈ l.drain.1 ↔ l.known.find? e.1 = some ⟨e.2, true⟩ := by
  obtain ⟨path, storage⟩ := e
  simp only [drain, List.mem_map, List.mem_filter]
  constructor
  · rintro ⟨⟨p, location⟩, ⟨mem, ready⟩, eq⟩
    cases eq
    obtain ⟨s, r⟩ := location
    cases ready
    exact Keyed.mem_entries_iff.mp mem
  · intro known
    exact ⟨(path, ⟨storage, true⟩), ⟨Keyed.mem_entries_iff.mpr known, rfl⟩, rfl⟩

/-- The paths of what is drained are the listed ones, in their order. -/
theorem map_fst_drain (l : Locations) : l.drain.1.map Prod.fst = l.paths := by
  simp only [drain, paths, List.map_map]
  rfl

/-! ### How many are known -/

/-- Asking for a location makes one more known at most. -/
theorem size_enter_le (l : Locations) (path : StoragePath) (storage : String) :
    (l.enter path storage).2.known.size ≤ l.known.size + 1 := by
  cases known : l.known.find? path with
  | some location =>
    rw [enter_eq_of_known known]
    exact Nat.le_succ _
  | none =>
    rw [enter_eq_of_unknown known]
    exact Keyed.size_put_le ..

@[simp] theorem size_settle : (l.settle path).known.size = l.known.size := Keyed.size_modify ..

/-- No more are drained than were known. -/
theorem length_drain_le (l : Locations) : l.drain.1.length ≤ l.known.size := by
  simp only [drain, List.length_map]
  exact List.length_filter_le ..

/-! ### The listing -/

/-- No location is listed twice. -/
theorem nodup_paths (l : Locations) : l.paths.Nodup :=
  l.known.distinct.sublist (List.filter_sublist.map _)

/-- The listing and the look-up agree. -/
theorem mem_paths_iff : path ∈ l.paths ↔ l.contains path = true := by
  simp only [paths, contains, List.mem_map, List.mem_filter, Option.any_eq_true]
  constructor
  · rintro ⟨⟨p, location⟩, ⟨mem, ready⟩, rfl⟩
    exact ⟨location, Keyed.mem_entries_iff.mp mem, ready⟩
  · rintro ⟨location, known, ready⟩
    exact ⟨(path, location), ⟨Keyed.mem_entries_iff.mpr known, ready⟩, rfl⟩

/-- A location is drained once if it is ready, and not at all otherwise. -/
theorem countP_drain (l : Locations) (path : StoragePath) :
    l.drain.1.countP (fun e => e.1 = path) = (l.contains path).toNat := by
  have asPaths : l.drain.1.countP (fun e => e.1 = path) = l.paths.count path := by
    rw [← map_fst_drain, List.count, List.countP_map]
    apply List.countP_congr
    intro e _
    simp
  rw [asPaths]
  cases ready : l.contains path with
  | true => exact List.count_eq_one_of_mem l.nodup_paths (mem_paths_iff.mpr ready)
  | false =>
    apply List.count_eq_zero_of_not_mem
    intro mem
    exact Bool.false_ne_true (ready.symm.trans (mem_paths_iff.mp mem))

/-- Without known locations none is ready. -/
theorem contains_of_empty (nothing : l.known = .empty) (path : StoragePath) :
    l.contains path = false := by
  simp only [contains, nothing, Keyed.find?_empty, Option.any_none]

/-- Nothing is ready any more once the locations were drained. -/
theorem contains_drain (l : Locations) (path : StoragePath) : l.drain.2.contains path = false :=
  contains_of_empty rfl path

theorem paths_of_empty (nothing : l.known = .empty) : l.paths = [] := by
  simp only [paths, nothing]
  rfl

end Locations

end QuerySession
