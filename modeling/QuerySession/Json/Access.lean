import QuerySession.Json.Basic

/-!
# Reading members

Members of an object by name, with an answer for members that are absent or of another kind.

## Main Definitions

* `Json.textAt?`, `Json.textAtD`, `Json.flagAt`, `Json.countAt?`, `Json.itemsAt`, `Json.textsAt`,
  `Json.membersAt`
-/

namespace QuerySession.Json

/-- The member called `name`, if it is a text. -/
def textAt? (v : Json) (name : String) : Option String := (v.member? name).bind str?

/-- The member called `name` if it is a text, or else `default`. -/
def textAtD (v : Json) (name default : String) : String := (v.textAt? name).getD default

/-- The member called `name` if it is a truth value, or else `default`. -/
def flagAt (v : Json) (name : String) (default : Bool) : Bool :=
  ((v.member? name).bind bool?).getD default

/-- The member called `name`, if it is a whole number that is not negative. -/
def countAt? (v : Json) (name : String) : Option Nat :=
  match (v.member? name).bind whole? with
  | some n => if 0 ≤ n then some n.toNat else none
  | none => none

/-- The items of the member called `name`; none when it is not a list. -/
def itemsAt (v : Json) (name : String) : List Json := ((v.member? name).bind items?).getD []

/-- The texts among the items of the member called `name`. -/
def textsAt (v : Json) (name : String) : List String := (v.itemsAt name).filterMap str?

/-- The members of the member called `name`; none when it is not an object. -/
def membersAt (v : Json) (name : String) : List (String × Json) :=
  ((v.member? name).bind members?).getD []

end QuerySession.Json
