/-!
# Keyed collections

At most one value per key, kept in the order in which the keys first arrived. Option bags,
connection properties, alias tables and location maps are all of this shape: what they answer
depends on look-ups alone, and the order only decides how a listing is written down.

## Main Definitions

* `Keyed` — the collection; distinctness of its keys is part of the type
* `Keyed.find?`, `Keyed.put`, `Keyed.erase`, `Keyed.ofList`

## Main Results

* `Keyed.find?_put` — a look-up after a write is the written value at that key and the old
  answer elsewhere
* `Keyed.find?_erase` — the same for removal
-/

namespace QuerySession

/-- Values by key, no key twice, in order of first arrival. -/
structure Keyed (α β : Type) where
  entries : List (α × β)
  distinct : (entries.map Prod.fst).Nodup

namespace Keyed

variable {α β : Type}

/-- No entries. -/
def empty : Keyed α β := ⟨[], by simp⟩

instance : Inhabited (Keyed α β) := ⟨empty⟩

instance [DecidableEq α] [DecidableEq β] : DecidableEq (Keyed α β) := fun a b =>
  if h : a.entries = b.entries then
    isTrue (by cases a; cases b; cases h; rfl)
  else isFalse fun hab => h (congrArg entries hab)

/-- The keys, oldest first. -/
def keys (m : Keyed α β) : List α := m.entries.map Prod.fst

/-- The number of keys. -/
def size (m : Keyed α β) : Nat := m.entries.length

/-- Whether there is no key at all. -/
def isEmpty (m : Keyed α β) : Bool := m.entries.isEmpty

/-- Keep the entries that pass `p`. -/
def filter (p : α × β → Bool) (m : Keyed α β) : Keyed α β :=
  ⟨m.entries.filter p, m.distinct.sublist ((List.filter_sublist).map _)⟩

section Lookup

variable [DecidableEq α]

/-- The value of the first entry with key `k`. -/
def findIn (k : α) : List (α × β) → Option β
  | [] => none
  | (a, b) :: rest => if a = k then some b else findIn k rest

/-- Overwrite the entry with key `k` where it stands, or add one at the end. -/
def putIn (k : α) (v : β) : List (α × β) → List (α × β)
  | [] => [(k, v)]
  | (a, b) :: rest => if a = k then (k, v) :: rest else (a, b) :: putIn k v rest

theorem map_fst_putIn (k : α) (v : β) (l : List (α × β)) :
    (putIn k v l).map Prod.fst =
      if k ∈ l.map Prod.fst then l.map Prod.fst else l.map Prod.fst ++ [k] := by
  induction l with
  | nil => simp [putIn]
  | cons e rest ih =>
    obtain ⟨a, b⟩ := e
    by_cases h : a = k
    · subst h
      simp [putIn]
    · have hk : k ≠ a := fun e => h e.symm
      simp only [putIn, h, if_false, List.map_cons, ih, List.mem_cons, hk, false_or]
      split <;> simp

/-- The value at `k`, if there is one. -/
def find? (m : Keyed α β) (k : α) : Option β := findIn k m.entries

/-- Whether `k` has a value. -/
def contains (m : Keyed α β) (k : α) : Bool := (m.find? k).isSome

/-- Set the value at `k`. -/
def put (m : Keyed α β) (k : α) (v : β) : Keyed α β :=
  ⟨putIn k v m.entries, by
    rw [map_fst_putIn]
    split
    · exact m.distinct
    · rename_i h
      exact List.nodup_append.2 ⟨m.distinct, by simp, by
        intro x hx y hy
        simp only [List.mem_singleton] at hy
        subst hy
        exact fun e => h (e ▸ hx)⟩⟩

/-- Forget the value at `k`. -/
def erase (m : Keyed α β) (k : α) : Keyed α β := m.filter fun e => decide (e.1 ≠ k)

/-- Change the value at `k`, if there is one. -/
def modify (m : Keyed α β) (k : α) (f : β → β) : Keyed α β :=
  match m.find? k with
  | none => m
  | some v => m.put k (f v)

/-- Write the pairs one after the other, so that the last value of a key stays. -/
def ofList (pairs : List (α × β)) : Keyed α β :=
  pairs.foldl (fun m p => m.put p.1 p.2) empty

@[simp] theorem find?_empty (k : α) : (empty : Keyed α β).find? k = none := rfl

theorem findIn_putIn (k k' : α) (v : β) (l : List (α × β)) :
    findIn k' (putIn k v l) = if k = k' then some v else findIn k' l := by
  induction l with
  | nil => simp [putIn, findIn]
  | cons e rest ih =>
    obtain ⟨a, b⟩ := e
    by_cases h : a = k
    · subst h
      by_cases h' : a = k' <;> simp [putIn, findIn, h']
    · by_cases h' : a = k'
      · subst h'
        have hk : k ≠ a := fun e => h e.symm
        simp [putIn, findIn, h, hk]
      · simp [putIn, findIn, h, h', ih]

/-- A look-up after a write answers the written value at that key and as before elsewhere. -/
theorem find?_put (m : Keyed α β) (k k' : α) (v : β) :
    (m.put k v).find? k' = if k = k' then some v else m.find? k' :=
  findIn_putIn k k' v m.entries

theorem findIn_filter_ne (k k' : α) (l : List (α × β)) :
    findIn k' (l.filter fun e => decide (e.1 ≠ k)) = if k = k' then none else findIn k' l := by
  induction l with
  | nil => simp [findIn]
  | cons e rest ih =>
    obtain ⟨a, b⟩ := e
    by_cases h : a = k
    · subst h
      by_cases h' : a = k'
      · subst h'
        simpa using ih
      · simpa [findIn, h'] using ih
    · by_cases h' : a = k'
      · subst h'
        have hk : k ≠ a := fun e => h e.symm
        simp [findIn, h, hk]
      · simpa [findIn, h, h'] using ih

/-- A look-up after a removal answers nothing at that key and as before elsewhere. -/
theorem find?_erase (m : Keyed α β) (k k' : α) :
    (m.erase k).find? k' = if k = k' then none else m.find? k' :=
  findIn_filter_ne k k' m.entries

end Lookup

end Keyed

end QuerySession
