import QuerySession.Keyed
import QuerySession.Number.Layout
import QuerySession.Text.LowerCase

/-!
# Options

Named values that steer how queries run. One system-wide bag holds the values of the server; every
session has an overlay of its own, which may fall back on the system's bag for names it does not
hold. Names are looked up by their lower-casing, and a value keeps the spelling it was set with.

## Main Definitions

* `OptionValue` — a value with its name and scope
* `SystemOptions` — the system-wide bag
* `SessionOptions` — a session's overlay

## Main Results

* `SessionOptions.find?_set` — what a look-up answers after a write
* `SystemOptions.find?_set` — the same for the system's bag
-/

namespace QuerySession

/-- Where an option applies. -/
inductive OptionScope where
  | system
  | session
  | query
  deriving DecidableEq

/-- The content of an option. -/
inductive OptionContent where
  | flag (b : Bool)
  | whole (n : Int)
  | real (x : Binary64)
  | text (s : String)
  deriving DecidableEq

namespace OptionContent

/-- The plain text of a content. -/
def toText : OptionContent → String
  | flag b => if b then "true" else "false"
  | whole n => toString n
  | real x => x.write .plain
  | text s => s

/-- Equality of contents; both zeros are the same number. -/
def same : OptionContent → OptionContent → Bool
  | real x, real y => x.same y
  | a, b => a == b

end OptionContent

/-- An option with its content. -/
structure OptionValue where
  scope : OptionScope
  name : String
  content : OptionContent
  deriving DecidableEq

namespace OptionValue

/-- The text of an option that holds one. -/
def text? (v : OptionValue) : Option String :=
  match v.content with
  | .text s => some s
  | _ => none

/-- Equality of options; both zeros are the same number. -/
def same (v w : OptionValue) : Bool :=
  v.scope == w.scope && v.name == w.name && v.content.same w.content

end OptionValue

/-- Options by lower-cased name. -/
abbrev OptionBag := Keyed String OptionValue

namespace OptionBag

/-- Set an option under the lower-casing of its name. -/
def set (bag : OptionBag) (v : OptionValue) : OptionBag := bag.put (Text.lowerCase v.name) v

/-- The option whose name has the same lower-casing as `name`. -/
def get? (bag : OptionBag) (name : String) : Option OptionValue := bag.find? (Text.lowerCase name)

/-- A look-up after a write. -/
theorem get?_set (bag : OptionBag) (v : OptionValue) (name : String) :
    (bag.set v).get? name =
      if Text.lowerCase v.name = Text.lowerCase name then some v else bag.get? name :=
  Keyed.find?_put ..

end OptionBag

/-- The bag of the whole system. -/
structure SystemOptions where
  values : OptionBag
  deriving DecidableEq

namespace SystemOptions

/-- No options. -/
def empty : SystemOptions := ⟨.empty⟩

/-- Set an option; its scope is kept. -/
def set (o : SystemOptions) (v : OptionValue) : SystemOptions := ⟨o.values.set v⟩

/-- The option called `name`. -/
def find? (o : SystemOptions) (name : String) : Option OptionValue := o.values.get? name

/-- A look-up after a write. -/
theorem find?_set (o : SystemOptions) (v : OptionValue) (name : String) :
    (o.set v).find? name =
      if Text.lowerCase v.name = Text.lowerCase name then some v else o.find? name :=
  OptionBag.get?_set ..

end SystemOptions

/-- The overlay of one session. -/
structure SessionOptions where
  sessionId : String
  /-- Whether names not held here are looked up in the system's bag. -/
  fallsBack : Bool
  values : OptionBag
  deriving DecidableEq

namespace SessionOptions

/-- An overlay over the system's bag. -/
def layered (sessionId : String) : SessionOptions := ⟨sessionId, true, .empty⟩

/-- An overlay over nothing. -/
def standalone (sessionId : String) : SessionOptions := ⟨sessionId, false, .empty⟩

/-- An option as it is kept at a session. -/
def atSession (v : OptionValue) : OptionValue := { v with scope := .session }

/-- Set an option at the scope of the session. -/
def set (o : SessionOptions) (v : OptionValue) : SessionOptions :=
  { o with values := o.values.set (atSession v) }

/-- Set options one after the other. -/
def applyAll (o : SessionOptions) (vs : List OptionValue) : SessionOptions := vs.foldl set o

/-- The option called `name`: the overlay's own, or else the system's. -/
def find? (system : SystemOptions) (o : SessionOptions) (name : String) : Option OptionValue :=
  match o.values.get? name with
  | some v => some v
  | none => if o.fallsBack then system.find? name else none

/-- The number of names held by the overlay itself. -/
def size (o : SessionOptions) : Nat := o.values.size

/-- Whether the overlay itself holds nothing. -/
def isEmpty (o : SessionOptions) : Bool := o.values.isEmpty

/-- A look-up after a write on the overlay. -/
theorem find?_set (system : SystemOptions) (o : SessionOptions) (v : OptionValue)
    (name : String) :
    (o.set v).find? system name =
      if Text.lowerCase v.name = Text.lowerCase name then some (atSession v)
      else o.find? system name := by
  by_cases h : Text.lowerCase v.name = Text.lowerCase name
  · simp [find?, set, OptionBag.get?_set, atSession, h]
  · simp only [find?, set, OptionBag.get?_set, atSession, h, if_false]
    rfl

end SessionOptions

end QuerySession
