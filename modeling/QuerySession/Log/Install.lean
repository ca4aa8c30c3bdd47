import QuerySession.Log.Filter
import QuerySession.Settings.Basic
import QuerySession.Storage.Disk

/-!
# The log of a process

A process has one log, which is installed once. It writes what its filter lets through to standard
output or to the end of a file.

## Main Definitions

* `LoggingSettings.filter` — the filter that settings and the environment ask for
* `Journal` — an installed log; `Journal.logs`, `Journal.logsSpanClose`
* `LogHost`, `LogHost.install` — the process, and how its log is installed
-/

namespace QuerySession

/-- Why a log cannot be installed. -/
inductive LogFault where
  | directive (fault : Directive.Fault)
  | file (fault : Disk.Fault)
  /-- There is one already. -/
  | installed
  deriving DecidableEq

/-- The wording. -/
def LogFault.message : LogFault → String
  | directive fault => fault.message
  | file fault => fault.message
  | installed => "a global default trace dispatcher has already been set"

/-- The filter without the directives of the settings: the environment's, if it can be read, or
else the one of the settings' level. -/
def LoggingSettings.baseFilter (s : LoggingSettings) (environment : Option String) : Filter :=
  (environment.bind Filter.ofText?).getD (.ofReadable s.level)

/-- The filter that settings and the environment ask for. -/
def LoggingSettings.filter (s : LoggingSettings) (environment : Option String) :
    Except Directive.Fault Filter :=
  s.directives.foldlM (fun f text => do .ok (f.add (← Directive.ofText text)))
    (s.baseFilter environment)

/-- An installed log. -/
structure Journal where
  filter : Filter
  format : LogFormat
  includeLocation : Bool
  includeThread : Bool
  logSpanClose : Bool
  /-- Whether it goes to a file, and not to standard output. -/
  toFile : Bool
  deriving DecidableEq

namespace Journal

/-- Whether an event is written. -/
def logs (j : Journal) (target : String) (level : Level) : Bool := j.filter.allows target level

/-- Whether the end of a span is written. -/
def logsSpanClose (j : Journal) (target : String) (level : Level) : Bool :=
  j.logSpanClose && j.logs target level

/-- Whether a record takes several lines. -/
def isMultiLine (j : Journal) : Bool := j.format == .pretty

/-- Whether a record is a document. -/
def isDocument (j : Journal) : Bool := j.format == .json

/-- Whether a record names its place in the program; the pretty format always does. -/
def showsLocation (j : Journal) : Bool := j.includeLocation || j.isMultiLine

end Journal

/-- A process as far as its log is concerned. -/
structure LogHost where
  disk : Disk
  /-- The directives in its environment. -/
  environment : Option String
  journal : Option Journal
  deriving DecidableEq

/-- Install the log that settings ask for; the file, by its path, is opened first. -/
def LogHost.install (h : LogHost) (s : LoggingSettings) (file : Option (List String)) :
    Except LogFault Unit × LogHost :=
  match s.filter h.environment with
  | .error fault => (.error (.directive fault), h)
  | .ok filter =>
    match (match file with
      | some names => h.disk.append names []
      | none => .ok h.disk) with
    | .error fault => (.error (.file fault), h)
    | .ok disk =>
      match h.journal with
      | some _ => (.error .installed, { h with disk })
      | none =>
        let journal : Journal :=
          ⟨filter, s.format, s.includeLocation, s.includeThread, s.logSpanClose, file.isSome⟩
        (.ok (), { h with disk, journal := some journal })

end QuerySession
