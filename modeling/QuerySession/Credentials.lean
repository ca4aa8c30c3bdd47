/-!
# Credentials

The identity of a connected user. It is a plain value; a session always has one.

## Main Definitions

* `Credentials` — the name under which a user is connected
-/

namespace QuerySession

/-- The identity of a connected user. -/
structure Credentials where
  userName : String
  deriving DecidableEq

end QuerySession
