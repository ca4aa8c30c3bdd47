/-!
# Log events

What a component reports while it works: a level, a message, named texts, and the spans it works
in. Events are plain values, so that what an operation reports is part of its result.

## Main Definitions

* `Level` — how severe an event is
* `Event` — the report
-/

namespace QuerySession

/-- How severe an event is, most severe first. -/
inductive Level where
  | error
  | warn
  | info
  | debug
  | trace
  deriving DecidableEq

namespace Level

/-- The levels, most severe first. -/
def all : List Level := [.error, .warn, .info, .debug, .trace]

/-- The place among the levels; `0` is the most severe. -/
def rank : Level → Nat
  | .error => 0
  | .warn => 1
  | .info => 2
  | .debug => 3
  | .trace => 4

/-- The written name. -/
def name : Level → String
  | .error => "ERROR"
  | .warn => "WARN"
  | .info => "INFO"
  | .debug => "DEBUG"
  | .trace => "TRACE"

end Level

/-- One report. -/
structure Event where
  level : Level
  message : String
  fields : List (String × String)
  /-- The names of the spans around it, outermost first. -/
  spans : List String
  deriving DecidableEq

end QuerySession
