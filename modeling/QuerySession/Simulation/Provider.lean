import QuerySession.Security.HttpLogin
import QuerySession.Security.Provider
import QuerySession.Simulation.Url.Parser

/-!
# Scripted providers

A provider that follows a script: which users it lets in, what it adds to sessions, and where it
fails. Every call is noted.

## Main Definitions

* `ProviderScript` — the script
* `ProviderCall` — a noted call
* `ScriptedProvider` — the provider; `ScriptedProvider.authenticate`, `ScriptedProvider.load`
* `SimulatedProvider` — a scripted provider or one of the library's own
* `HttpLogin.setup` — the setup of the library's own authenticator in a simulation
-/

namespace QuerySession

/-- What a scripted provider does. -/
structure ProviderScript where
  setupError : Option Error
  closeError : Option Error
  /-- The end of every login, and of every load once the attributes were changed. -/
  error : Option Error
  /-- The users with their passwords; everyone is let in when there are none. -/
  users : Option (List (String × String))
  attributes : List OptionValue
  /-- How many attributes a load keeps; all when there is no number. -/
  truncate : Option Nat
  /-- What a load adds. -/
  push : List OptionValue

/-- A script without anything in it. -/
def ProviderScript.empty : ProviderScript := ⟨none, none, none, none, [], none, []⟩

/-- A noted call of the provider made from the script with the number `slot`. -/
inductive ProviderCall where
  | construct (slot : Nat)
  | setup (slot : Nat) (extra : Keyed String String)
  | close (slot : Nat)
  | authenticate (slot : Nat) (user password : String)
  | load (slot : Nat) (sessionId : String) (attributes : List OptionValue)
  deriving DecidableEq

/-- A provider that follows a script. -/
structure ScriptedProvider where
  slot : Nat
  /-- The further settings of the last setup. -/
  extra : Keyed String String
  deriving DecidableEq

namespace ScriptedProvider

/-- The name of the further setting that is handed on to sessions. -/
def markerName : String := "marker"

/-- The option that hands the marker on, if the provider was set up with one. -/
def marker (p : ScriptedProvider) : List OptionValue :=
  match p.extra.find? markerName with
  | some text => [⟨.session, markerName, .text text⟩]
  | none => []

/-- A step that ends in the error of the script, if there is one. -/
def orFail {α : Type} (e : Option Error) (a : α) : Except Error α :=
  match e with
  | some e => .error e
  | none => .ok a

/-- Whether a script lets a user in. -/
def letsIn (s : ProviderScript) (user password : String) : Bool :=
  match s.users with
  | some users => users.any fun u => u.1 == user && u.2 == password
  | none => true

/-- The attributes of a user who gives the right password. -/
def authenticate (p : ScriptedProvider) (s : ProviderScript) (user password : String) :
    Except Error (List OptionValue) := do
  orFail s.error ()
  if letsIn s user password then .ok (s.attributes ++ p.marker)
  else .error (.loginRejected user "scripted")

/-- The attributes as a load leaves them, and whether it succeeds. -/
def load (s : ProviderScript) (attributes : List OptionValue) :
    Except Error Unit × List OptionValue :=
  (orFail s.error (),
    (match s.truncate with
      | some count => attributes.take count
      | none => attributes) ++ s.push)

end ScriptedProvider

/-- A provider of a simulation. -/
inductive SimulatedProvider where
  | scripted (p : ScriptedProvider)
  | httpLogin (h : HttpLogin)
  | noContext
  deriving DecidableEq

/-- Set up in a simulation: the simulated parser reads the address, and a client can be made. -/
def HttpLogin.setup {σ : Type} (h : HttpLogin) (settings : Settings) :
    Action σ (Except Error Unit × HttpLogin) :=
  h.setupWith SimulatedUrl.parser none settings

/-- A provider as its factory makes it. -/
def SimulatedProvider.fresh : Factory → SimulatedProvider
  | .httpLogin => .httpLogin .fresh
  | .noContext => .noContext
  | .custom slot => .scripted ⟨slot, .empty⟩

end QuerySession
