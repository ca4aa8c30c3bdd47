import QuerySession.Error.Basic
import QuerySession.Log.Event

/-!
# Actions

Operations that call something outside of the library (storages, workspaces, providers) run in an
action: it passes the state of the outside along, collects the events that are reported on the way,
and knows the spans it runs in. An attempt is an action that may end in an error; what was done and
reported up to then stays.

## Main Definitions

* `Scene` — the state of the outside with the events so far
* `Action`, `Attempt` — operations, and operations that may fail
* `emit`, `within` — report an event, run inside spans
* `focus` — run on a part of the outside

## Design Notes

A component owns the path of its spans and enters it as a whole: `within` replaces the spans of the
caller and does not add to them.
-/

namespace QuerySession

/-- The state of the outside with the events reported so far, oldest first. -/
structure Scene (σ : Type) where
  outside : σ
  events : List Event

/-- An operation that may call the outside and report events. -/
abbrev Action (σ : Type) := ReaderT (List String) (StateM (Scene σ))

/-- An action that may end in an error. -/
abbrev Attempt (σ : Type) := ExceptT Error (Action σ)

variable {σ α : Type}

/-- Report an event in the spans of the caller. -/
def emit (level : Level) (message : String) (fields : List (String × String)) : Action σ Unit :=
  fun spans scene =>
    ((), { scene with events := scene.events ++ [⟨level, message, fields, spans⟩] })

/-- Use the state of the outside and replace it. -/
def consult (f : σ → α × σ) : Action σ α := fun _ scene =>
  let (a, outside) := f scene.outside
  (a, { scene with outside })

/-- Run inside the given spans, instead of those of the caller. -/
def within {m : Type → Type} [MonadWithReaderOf (List String) m] (spans : List String)
    (x : m α) : m α :=
  withTheReader (List String) (fun _ => spans) x

/-- Run an action that knows of a part of the outside only. -/
def focus {τ : Type} (part : σ → τ) (replace : τ → σ → σ) (x : Action τ α) : Action σ α :=
  fun spans scene =>
    let (a, inner) := x spans ⟨part scene.outside, scene.events⟩
    (a, ⟨replace inner.outside scene.outside, inner.events⟩)

namespace Attempt

/-- The outcome of an attempt as a value. -/
def outcome (x : Attempt σ α) : Action σ (Except Error α) := x.run

/-- A result that needs nothing from the outside. -/
def ofExcept (r : Except Error α) : Attempt σ α := ExceptT.mk (pure r)

/-- Use the state of the outside and replace it, with a result that may be an error. -/
def consult (f : σ → Except Error α × σ) : Attempt σ α := ExceptT.mk (QuerySession.consult f)

/-- Report an event in the spans of the caller. -/
def emit (level : Level) (message : String) (fields : List (String × String)) : Attempt σ Unit :=
  ExceptT.lift (QuerySession.emit level message fields)

/-- Run an attempt that knows of a part of the outside only. -/
def focus {τ : Type} (part : σ → τ) (replace : τ → σ → σ) (x : Attempt τ α) : Attempt σ α :=
  ExceptT.mk (QuerySession.focus part replace x.run)

end Attempt

/-- Report an error at the level that its reason asks for. -/
def Error.report (e : Error) : Action σ Unit :=
  let fields := [("error_id", if e.context?.isSome then "Some" else "None"), ("error", e.message)]
  match e.reason? with
  | some (.extensionUnresolved ..) | some (.providerStartup _) | some (.internal _) =>
    emit .error "Fatal error occurred" fields
  | some (.settings _) | some (.invalid ..) =>
    emit .error "Configuration or validation error" fields
  | some (.loginRejected _) | some (.unauthorized _) | some (.schemaUnknown _) =>
    emit .warn "Request rejected" fields
  | some (.contextLoad ..) | some (.locationMissing _) | some (.storage _) | none =>
    emit .error "Error occurred" fields

end QuerySession
