import Mathlib.Data.List.DropRight
import Mathlib.Data.List.Induction

/-!
# Histories

A history is a list of what happened, oldest first, that grows at its end.  Two things are read
off it again and again: what holds of everything that happened, given all that came before it
(`Throughout`), and what happened since the last event of some kind (`since`).  Both follow the
growth of the history by one event at a time.  Events stay at their places
(`getElem?_append_of_some`).
-/

namespace QuerySession

variable {α : Type}

/-! ### Places -/

/-- What is at a place of a list that grew at its end. -/
theorem getElem?_concat {l : List α} {new x : α} {k : Nat} (at_ : (l ++ [new])[k]? = some x) :
    l[k]? = some x ∨ k = l.length ∧ x = new := by
  rcases Nat.lt_trichotomy k l.length with old | last | beyond
  · exact .inl (List.getElem?_append_left old ▸ at_)
  · subst last
    rw [List.getElem?_concat_length] at at_
    exact .inr ⟨rfl, (Option.some.inj at_).symm⟩
  · rw [List.getElem?_eq_none (by simp; omega)] at at_
    cases at_

/-- What was at a place of a list is there when the list grows at its end. -/
theorem getElem?_append_of_some {l : List α} {x : α} {k : Nat} (at_ : l[k]? = some x)
    (later : List α) : (l ++ later)[k]? = some x := by
  rw [List.getElem?_append_left (List.getElem?_eq_some_iff.mp at_).1, at_]

/-- What is at a place of a list, after something else was put at one of its places. -/
theorem getElem?_set_of_some {l : List α} {old : α} {i : Nat} (at_ : l[i]? = some old) (new : α)
    (j : Nat) : (l.set i new)[j]? = if i = j then some new else l[j]? := by
  have bound : i < l.length := (List.getElem?_eq_some_iff.mp at_).1
  simp only [List.getElem?_set, bound, if_true]

/-- Counting after something else was put at a place: the new is counted there, and not the old. -/
theorem countP_set_add (P : α → Bool) {l : List α} {old : α} {i : Nat} (at_ : l[i]? = some old)
    (new : α) : (l.set i new).countP P + (P old).toNat = l.countP P + (P new).toNat := by
  obtain ⟨bound, rfl⟩ := List.getElem?_eq_some_iff.mp at_
  have counted : P l[i] = true → 0 < l.countP P := fun yes =>
    List.countP_pos_iff.mpr ⟨_, List.getElem_mem bound, yes⟩
  simp only [List.countP_set bound]
  cases hold : P l[i] <;> cases P new <;> simp_all

/-- When at most one member is counted, two that are counted are the same. -/
theorem eq_of_countP_le_one {P : α → Bool} {l : List α} (le : l.countP P ≤ 1) {a b : α}
    (memA : a ∈ l) (memB : b ∈ l) (counted : P a = true) (countedToo : P b = true) : a = b := by
  have inA : a ∈ l.filter P := List.mem_filter.mpr ⟨memA, counted⟩
  have inB : b ∈ l.filter P := List.mem_filter.mpr ⟨memB, countedToo⟩
  rw [List.countP_eq_length_filter] at le
  cases counted : l.filter P with
  | nil => simp [counted] at inA
  | cons x rest =>
    rw [counted, List.length_cons] at le
    have alone : rest = [] := List.eq_nil_of_length_eq_zero (by omega)
    simp_all

/-! ### What holds throughout -/

/-- Whether `P` holds of each event of a history, given the events before it. -/
def Throughout (P : List α → α → Prop) (h : List α) : Prop :=
  ∀ before e after, h = before ++ e :: after → P before e

theorem throughout_nil (P : List α → α → Prop) : Throughout P [] := by
  intro before e after split
  simp at split

/-- One more event has to be looked at when a history grows. -/
theorem throughout_concat {P : List α → α → Prop} {h : List α} {e : α} :
    Throughout P (h ++ [e]) ↔ Throughout P h ∧ P h e := by
  constructor
  · intro whole
    refine ⟨fun before e' after split => ?_, whole h e [] rfl⟩
    apply whole before e' (after ++ [e])
    rw [split, List.append_assoc, List.cons_append]
  · rintro ⟨earlier, last⟩ before e' after split
    rcases List.eq_nil_or_concat after with rfl | ⟨front, final, rfl⟩
    · obtain ⟨rfl, eq⟩ := List.append_inj' split rfl
      cases eq
      exact last
    · have regroup : h ++ [e] = (before ++ e' :: front) ++ [final] := by
        simpa using split
      obtain ⟨same, -⟩ := List.append_inj' regroup rfl
      exact earlier before e' front same

/-! ### What happened since -/

/-- What happened after the last event that is a `start`, or ever if there was none. -/
def since (start : α → Bool) (h : List α) : List α := h.rtakeWhile fun e => !start e

/-- A start wipes the slate clean; whatever else happens is added to it. -/
theorem since_concat (start : α → Bool) (h : List α) (e : α) :
    since start (h ++ [e]) = if start e then [] else since start h ++ [e] := by
  unfold since
  rw [List.rtakeWhile_concat]
  cases start e <;> rfl

/-- What happened since an event that nothing like it followed. -/
theorem since_append_cons {start : α → Bool} {e : α} (first : start e = true) (before : List α)
    {after : List α} (none_later : ∀ x ∈ after, start x = false) :
    since start (before ++ e :: after) = after := by
  induction after using List.reverseRecOn with
  | nil => rw [since_concat, if_pos first]
  | append_singleton after x ih =>
    have last : start x = false := none_later x (by simp)
    have earlier : ∀ y ∈ after, start y = false := fun y mem => none_later y (by simp [mem])
    rw [← List.cons_append, ← List.append_assoc, since_concat, ih earlier, last,
      if_neg Bool.false_ne_true]

/-- What happened since some event is part of what happened. -/
theorem mem_of_mem_since {start : α → Bool} {h : List α} {e : α} (mem : e ∈ since start h) :
    e ∈ h := (List.rtakeWhile_suffix _ h).subset mem

end QuerySession
