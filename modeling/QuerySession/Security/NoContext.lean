import QuerySession.Action
import QuerySession.Options.Basic

/-!
# The context provider that adds nothing

It is ready at once, holds nothing, and leaves the attributes of every session as they are.

## Main Definitions

* `NoContext.setup`, `NoContext.load`
-/

namespace QuerySession.NoContext

variable {σ : Type}

/-- There is nothing to prepare. -/
def setup : Action σ Unit := emit .debug "No-op context provider ready" []

/-- The attributes stay as they are. -/
def load (attributes : List OptionValue) : Except Error Unit × List OptionValue :=
  (.ok (), attributes)

end QuerySession.NoContext
