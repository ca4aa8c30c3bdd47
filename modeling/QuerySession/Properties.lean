import QuerySession.Action
import QuerySession.Text.LowerCase

/-!
# Connection properties

What a client says about itself when it connects. Only four names are recognised, in any letter
case; of several values for a name the last one counts, and other names are reported and dropped.

## Main Definitions

* `Properties` — the recognised properties
* `Properties.ofPairs` — from the pairs that the client sent
* `Properties.snapshot` — all but the password

## Main Results

* `Properties.find?_set` — what a look-up answers after a write
-/

namespace QuerySession

/-- Recognised connection properties by lower-cased name. -/
structure Properties where
  values : Keyed String String
  deriving DecidableEq

namespace Properties

/-- The default schema. -/
def schema : String := "schema"

/-- The user to log in. -/
def user : String := "user"

/-- The user's password. -/
def password : String := "password"

/-- The user to act for once logged in. -/
def impersonationTarget : String := "impersonation_target"

/-- The names that are recognised. -/
def recognised : List String := [schema, user, password, impersonationTarget]

/-- No properties. -/
def empty : Properties := ⟨.empty⟩

/-- Set a property under the lower-casing of its name. -/
def set (p : Properties) (name value : String) : Properties :=
  ⟨p.values.put (Text.lowerCase name) value⟩

/-- The property whose name has the same lower-casing as `name`. -/
def find? (p : Properties) (name : String) : Option String := p.values.find? (Text.lowerCase name)

/-- The property called `name`, or the empty text. -/
def findD (p : Properties) (name : String) : String := (p.find? name).getD ""

/-- Whether there is a property called `name`. -/
def contains (p : Properties) (name : String) : Bool := (p.find? name).isSome

/-- The number of properties. -/
def size (p : Properties) : Nat := p.values.size

/-- Whether there are no properties. -/
def isEmpty (p : Properties) : Bool := p.values.isEmpty

/-- All properties but the password. -/
def snapshot (p : Properties) : Keyed String String := p.values.filter (·.1 ≠ password)

/-- Whether a name is recognised once it is lower-cased. -/
def isRecognised (name : String) : Bool := recognised.contains (Text.lowerCase name)

/-- Take one pair, if its name is recognised. -/
def take (p : Properties) (pair : String × String) : Properties :=
  if isRecognised pair.1 then p.set pair.1 pair.2 else p

/-- The recognised properties among the pairs that a client sent. -/
def ofPairs (pairs : List (String × String)) : Properties := pairs.foldl take empty

/-- The lower-cased names among the pairs that are not recognised. -/
def unrecognised (pairs : List (String × String)) : List String :=
  (pairs.filter fun pair => !isRecognised pair.1).map fun pair => Text.lowerCase pair.1

/-- The recognised properties; the others are reported. -/
def read {σ : Type} (pairs : List (String × String)) : Action σ Properties := do
  (unrecognised pairs).forM fun name =>
    emit .warn "Ignoring unknown property" [("property", name)]
  pure (ofPairs pairs)

/-- A look-up after a write. -/
theorem find?_set (p : Properties) (name name' value : String) :
    (p.set name value).find? name' =
      if Text.lowerCase name = Text.lowerCase name' then some value else p.find? name' :=
  Keyed.find?_put ..

end Properties

end QuerySession
