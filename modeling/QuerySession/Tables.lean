import QuerySession.Keyed
import QuerySession.Text.LowerCase

/-!
# Temporary tables

The names under which a session's temporary tables are stored. A client's name, in any letter
case, stands for one generated alias below the session's id; a name keeps its alias until it is
removed, and an alias is never given out twice.

## Main Definitions

* `Tables` — aliases by lower-cased name
* `Tables.register`, `Tables.resolve?`, `Tables.remove`

## Main Results

* `Tables.resolve?_register` — what a look-up answers after a registration
* `Tables.resolve?_remove` — the same after a removal
-/

namespace QuerySession

/-- Aliases of a session's temporary tables. -/
structure Tables where
  sessionId : String
  aliases : Keyed String String
  deriving DecidableEq

namespace Tables

/-- No tables yet. -/
def forSession (sessionId : String) : Tables := ⟨sessionId, .empty⟩

/-- The alias made of a fresh token. -/
def aliasOf (t : Tables) (token : String) : String := t.sessionId ++ "/" ++ token

/-- The alias of the table called `name`. -/
def resolve? (t : Tables) (name : String) : Option String := t.aliases.find? (Text.lowerCase name)

/-- Give `name` an alias made of `token`, unless it has one; answers the alias it has then. -/
def register (t : Tables) (name token : String) : String × Tables :=
  match t.resolve? name with
  | some found => (found, t)
  | none =>
    let fresh := t.aliasOf token
    (fresh, { t with aliases := t.aliases.put (Text.lowerCase name) fresh })

/-- Forget the alias of `name`; answers the alias it had. -/
def remove (t : Tables) (name : String) : Option String × Tables :=
  (t.resolve? name, { t with aliases := t.aliases.erase (Text.lowerCase name) })

/-- The number of tables. -/
def size (t : Tables) : Nat := t.aliases.size

/-- Whether there are no tables. -/
def isEmpty (t : Tables) : Bool := t.aliases.isEmpty

/-- A look-up after a registration: the alias answered for names of the same lower-casing, and as
before for others. -/
theorem resolve?_register (t : Tables) (name name' token : String) :
    (t.register name token).2.resolve? name' =
      if Text.lowerCase name = Text.lowerCase name' then some (t.register name token).1
      else t.resolve? name' := by
  unfold register
  split
  · rename_i found h
    split
    · rename_i e
      rw [← h]
      simp [resolve?, e]
    · rfl
  · exact Keyed.find?_put ..

/-- A look-up after a removal: nothing for names of the same lower-casing, and as before for
others. -/
theorem resolve?_remove (t : Tables) (name name' : String) :
    (t.remove name).2.resolve? name' =
      if Text.lowerCase name = Text.lowerCase name' then none else t.resolve? name' :=
  Keyed.find?_erase ..

end Tables

end QuerySession
