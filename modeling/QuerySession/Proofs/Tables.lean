import Mathlib.Data.List.Dedup
import QuerySession.Proofs.Locations
import QuerySession.Tables

/-!
# The single steps of the tables

What `Tables.register` and `Tables.remove` do to the aliases, by lower-cased name.  An alias that a
registration makes is told from all others by its token (`aliasOf_inj`).
-/

namespace QuerySession.Tables

variable {t : Tables} {name other token tableAlias : String}

/-! ### Names and aliases -/

/-- Names of the same lower-casing have the same alias. -/
theorem resolve?_congr (same : Text.lowerCase name = Text.lowerCase other) :
    t.resolve? name = t.resolve? other := by
  unfold resolve?
  rw [same]

/-- Aliases of one session are told apart by their tokens. -/
theorem aliasOf_inj {token token' : String} :
    t.aliasOf token = t.aliasOf token' ↔ token = token' := by
  unfold aliasOf
  exact String.append_right_inj _

/-! ### Registering -/

/-- A name that has an alias keeps it. -/
theorem register_of_known (known : t.resolve? name = some tableAlias) :
    t.register name token = (tableAlias, t) := by
  unfold register
  rw [known]

/-- A name without alias gets the one that is made of the token. -/
theorem register_of_unknown (unknown : t.resolve? name = none) :
    (t.register name token).1 = t.aliasOf token := by
  unfold register
  rw [unknown]

@[simp] theorem sessionId_register : (t.register name token).2.sessionId = t.sessionId := by
  unfold register
  split <;> rfl

@[simp] theorem aliasOf_register (token' : String) :
    (t.register name token).2.aliasOf token' = t.aliasOf token' := by
  unfold aliasOf
  rw [sessionId_register]

/-- What is known after a registration, by lower-cased name. -/
theorem find?_register (t : Tables) (name token key : String) :
    (t.register name token).2.aliases.find? key =
      if Text.lowerCase name = key then some (t.register name token).1
      else t.aliases.find? key := by
  cases known : t.resolve? name with
  | some found =>
    rw [register_of_known known]
    split
    · rename_i same
      exact same ▸ known
    · rfl
  | none =>
    unfold register
    rw [known]
    exact Keyed.find?_put ..

/-! ### Removing -/

/-- What is known after a removal, by lower-cased name. -/
theorem find?_remove (t : Tables) (name key : String) :
    (t.remove name).2.aliases.find? key =
      if Text.lowerCase name = key then none else t.aliases.find? key := Keyed.find?_erase ..

/-! ### How many there are -/

/-- There are as many tables as there are names, if these are all the names. -/
theorem size_eq_length_dedup {names : List String}
    (all : ∀ key, (t.aliases.find? key).isSome ↔ key ∈ names) : t.size = names.dedup.length :=
  Keyed.size_eq_length_dedup all

end QuerySession.Tables
