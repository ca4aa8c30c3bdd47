import QuerySession.Options.Basic

/-!
# Options in use

The system's bag and any number of overlays, over the bag or standing alone, with all that can be
asked of them.  Calls come one after the other, in any order, and overlays are opened at any time.

## Main Definitions

* `OptionLayers` — the bag and the overlays
* `OptionLayers.Call`, `OptionLayers.Answer` — what can be asked, and what is answered
* `OptionLayers.serve`, `OptionLayers.after` — one call, and what is left by a sequence of calls
-/

namespace QuerySession

/-- The system's bag, and the overlays in the order in which they were opened. -/
structure OptionLayers where
  system : SystemOptions
  sessions : List SessionOptions

namespace OptionLayers

/-- What can be asked of the bag, and of the overlay that was opened as number `k`. -/
inductive Call where
  /-- Open an overlay, over the bag or standing alone. -/
  | open_ (id : String) (layered : Bool)
  | setSystem (v : OptionValue)
  | findSystem (name : String)
  | set (k : Nat) (v : OptionValue)
  | applyAll (k : Nat) (vs : List OptionValue)
  | find (k : Nat) (name : String)
  | count (k : Nat)

/-- The overlay that is called. -/
def Call.session? : Call → Option Nat
  | open_ .. | setSystem _ | findSystem _ => none
  | set k _ | applyAll k _ | find k _ | count k => some k

/-- What is answered. -/
inductive Answer where
  | done
  /-- There is no overlay of that number. -/
  | nobody
  | found (option : Option OptionValue)
  | counted (n : Nat)
  deriving DecidableEq

/-- Nothing is set, and no overlay is open. -/
def new : OptionLayers := ⟨.empty, []⟩

/-- An overlay that holds nothing. -/
def fresh (id : String) (layered : Bool) : SessionOptions :=
  if layered then .layered id else .standalone id

/-- Call overlay `k`, if there is one. -/
def on (b : OptionLayers) (k : Nat) (call : SessionOptions → Answer × SessionOptions) :
    Answer × OptionLayers :=
  match b.sessions[k]? with
  | none => (.nobody, b)
  | some o => ((call o).1, { b with sessions := b.sessions.set k (call o).2 })

/-- Serve one call. -/
def serve (b : OptionLayers) : Call → Answer × OptionLayers
  | .open_ id layered => (.done, { b with sessions := b.sessions ++ [fresh id layered] })
  | .setSystem v => (.done, { b with system := b.system.set v })
  | .findSystem name => (.found (b.system.find? name), b)
  | .set k v => b.on k fun o => (.done, o.set v)
  | .applyAll k vs => b.on k fun o => (.done, o.applyAll vs)
  | .find k name => b.on k fun o => (.found (o.find? b.system name), o)
  | .count k => b.on k fun o => (.counted o.size, o)

/-- What is left by calls that were served one after the other. -/
def after (calls : List Call) : OptionLayers := calls.foldl (fun b call => (b.serve call).2) new

end OptionLayers

end QuerySession
