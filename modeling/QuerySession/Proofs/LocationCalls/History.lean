import Mathlib.Algebra.BigOperators.Group.List.Basic
import Mathlib.Algebra.GroupWithZero.Nat
import QuerySession.Session.LocationCalls

/-!
# Reading a history

The statements about overlapping calls speak of what happened, and of nothing that a call or the
locations keep for themselves.  Here is what they read off a history: what one call did (`own`), who
named a location first (`namer?`), whether a location was made (`Made`), and how often something
happened (`tally`).
-/

namespace QuerySession.LocationCalls

/-! ## Kinds of happenings -/

namespace Happening

/-- Whether a storage was asked to make the folder at `path`. -/
def creates (path : StoragePath) : Happening → Bool
  | createSent _ _ p => p = path
  | _ => false

/-- Whether a storage was asked for the folder at `path`, to make it or to look for it. -/
def asks (path : StoragePath) : Happening → Bool
  | createSent _ _ p | probeSent _ _ p => p = path
  | _ => false

/-- Whether a storage was asked to make a folder, wherever. -/
def begins : Happening → Bool
  | createSent .. => true
  | _ => false

/-- Whether a storage was asked to look for a folder, wherever. -/
def looks : Happening → Bool
  | probeSent .. => true
  | _ => false

/-- Whether an attempt to make the location at `path` failed: the folder could not be made, the
storage could not tell whether it is there, or it is not there. -/
def fails (path : StoragePath) : Happening → Bool
  | createAnswered _ _ p (.error _) => p = path
  | probeAnswered _ _ p answer => p = path && !affirms answer
  | _ => false

/-- Whether an attempt to make the location at `path` succeeded. -/
def confirms (path : StoragePath) : Happening → Bool
  | probeAnswered _ _ p answer => p = path && affirms answer
  | _ => false

/-- Whether an `ensure` of `path` answered the path. -/
def grants (path : StoragePath) : Happening → Bool
  | returned _ p (.ok _) => p = path
  | _ => false

/-- Whether an `ensure` of `path` answered an error. -/
def denies (path : StoragePath) : Happening → Bool
  | returned _ p (.error _) => p = path
  | _ => false

/-- Whether an `ensure` of `path` was called, in a session. -/
def wants (sessionId : String) (path : StoragePath) : Happening → Bool
  | called _ (.ensure w) => w.locationOf sessionId = path
  | _ => false

/-- Whether an `ensure` of `path` found the locations closed. -/
def refuses (path : StoragePath) : Happening → Bool
  | refused _ p => p = path
  | _ => false

/-- Whether a storage was asked to delete what is at `path`. -/
def deletes (path : StoragePath) : Happening → Bool
  | deleteSent _ _ p _ => p = path
  | _ => false

/-- Whether a storage found something to delete. -/
def deleted : Happening → Bool
  | deleteAnswered _ _ _ answer => affirms answer
  | _ => false

/-- Whether a `cleanup` returned, and with which count. -/
def counts : Happening → Nat
  | cleaned _ count => count
  | _ => 0

end Happening

/-! ## How often -/

/-- How often something of a kind happened. -/
def tally (kind : Happening → Bool) (history : List Happening) : Nat := history.countP kind

@[simp] theorem tally_nil (kind : Happening → Bool) : tally kind [] = 0 := rfl

@[simp] theorem tally_append (kind : Happening → Bool) (h h' : List Happening) :
    tally kind (h ++ h') = tally kind h + tally kind h' := List.countP_append

@[simp] theorem tally_singleton (kind : Happening → Bool) (e : Happening) :
    tally kind [e] = (kind e).toNat := by
  unfold tally
  cases hold : kind e <;> simp [hold]

theorem tally_cons (kind : Happening → Bool) (e : Happening) (h : List Happening) :
    tally kind (e :: h) = (kind e).toNat + tally kind h := by
  rw [← List.singleton_append, tally_append, tally_singleton]

/-- What happened at all happened at least once. -/
theorem tally_pos_iff {kind : Happening → Bool} {h : List Happening} :
    0 < tally kind h ↔ ∃ e ∈ h, kind e = true := List.countP_pos_iff

theorem tally_eq_zero_iff {kind : Happening → Bool} {h : List Happening} :
    tally kind h = 0 ↔ ∀ e ∈ h, kind e = false := by
  simp [tally, List.countP_eq_zero]

/-! ## What one call did -/

/-- What one call did and saw, in order. -/
def own (i : Nat) (h : List Happening) : List Happening := h.filter fun e => e.caller = i

@[simp] theorem own_append (i : Nat) (h h' : List Happening) :
    own i (h ++ h') = own i h ++ own i h' := List.filter_append ..

/-- A call sees its own steps … -/
theorem own_singleton_self {i : Nat} {e : Happening} (mine : e.caller = i) : own i [e] = [e] := by
  simp [own, mine]

/-- … and not those of others. -/
theorem own_singleton_other {i : Nat} {e : Happening} (other : e.caller ≠ i) : own i [e] = [] := by
  simp [own, other]

theorem mem_own_iff {i : Nat} {e : Happening} {h : List Happening} :
    e ∈ own i h ↔ e ∈ h ∧ e.caller = i := by
  simp [own]

theorem own_sublist (i : Nat) (h : List Happening) : (own i h).Sublist h := List.filter_sublist

/-! ## Making a location -/

/-- Whether some call made the location at `path`: its storage made the folder, and then saw it. -/
def Made (path : StoragePath) (h : List Happening) : Prop :=
  ∃ i storage, [Happening.createSent i storage path, .createAnswered i storage path (.ok ()),
    .probeSent i storage path, .probeAnswered i storage path (.ok true)].Sublist h

/-- What was made stays made as the history goes on. -/
theorem Made.append {path : StoragePath} {h : List Happening} (made : Made path h)
    (later : List Happening) : Made path (h ++ later) := by
  obtain ⟨i, storage, sub⟩ := made
  exact ⟨i, storage, sub.trans (List.sublist_append_left h later)⟩

/-- What was made was confirmed. -/
theorem Made.confirmed {path : StoragePath} {h : List Happening} (made : Made path h) :
    0 < tally (Happening.confirms path) h := by
  obtain ⟨i, storage, sub⟩ := made
  have mem : Happening.probeAnswered i storage path (.ok true) ∈ h := sub.subset (by simp)
  exact tally_pos_iff.mpr ⟨_, mem, by simp [Happening.confirms, affirms]⟩

/-- The storage of a location that was named with a workspace, for its own path. -/
def Happening.names (sessionId : String) (path : StoragePath) : Happening → Option String
  | .named _ w => if w.locationOf sessionId = path then some w.storage else none
  | _ => none

/-- The storage of the workspace that named the location at `path` first. -/
def namer? (sessionId : String) (path : StoragePath) (h : List Happening) : Option String :=
  h.findSome? (Happening.names sessionId path)

@[simp] theorem namer?_append (sessionId : String) (path : StoragePath) (h h' : List Happening) :
    namer? sessionId path (h ++ h') =
      (namer? sessionId path h).or (namer? sessionId path h') := List.findSome?_append

@[simp] theorem namer?_singleton (sessionId : String) (path : StoragePath) (e : Happening) :
    namer? sessionId path [e] = e.names sessionId path := by
  simp [namer?, List.findSome?]
  cases e.names sessionId path <;> rfl

/-- The first name counts, whatever comes later. -/
theorem namer?_append_of_some {sessionId : String} {path : StoragePath} {h : List Happening}
    {storage : String} (first : namer? sessionId path h = some storage) (later : List Happening) :
    namer? sessionId path (h ++ later) = some storage := by
  rw [namer?_append, first]
  rfl

end QuerySession.LocationCalls
