import QuerySession.Error.Basic
import QuerySession.Time.Moment

/-!
# Stamped contexts

The circumstances of an error as they are passed on: with an identifier of the single occurrence and
the moment at which it occurred.

## Main Definitions

* `StampedContext` — the circumstances of one occurrence
-/

namespace QuerySession

/-- The circumstances of one occurrence of an error. -/
structure StampedContext where
  errorId : String
  moment : Moment
  context : Context
  deriving DecidableEq

end QuerySession
