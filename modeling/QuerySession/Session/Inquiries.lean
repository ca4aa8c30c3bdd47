import QuerySession.Session.Calls
import QuerySession.Session.Establish

/-!
# Visits

A visit is the whole of what goes through one session: it comes about, it is asked and looked at any
number of times, and it is let go.  What comes out of a visit are the replies, the events that are
reported on the way, and what it does to the outside.

## Main Definitions

* `Session.Look`, `Session.look` — what can be seen of a session
* `Session.serve` — one call, with what it answers
* `Session.Inquiry`, `Session.converse` — calls and looks, one after the other
* `Opening`, `Services.visit` — how a session comes about, and a whole visit

## Main Results

* `Session.perform_eq_serve` — a call leaves the session as `Session.perform` does

## Design Notes

A reply is what the caller is given, so that equal replies are all that two visits can have in
common for those who only use them.
-/

namespace QuerySession

namespace Session

variable {σ : Type}

/-- What a caller is given. -/
inductive Reply where
  | done
  | failed (e : Error)
  | flag (b : Bool)
  | count (n : Nat)
  | text (t : Option String)
  | texts (m : Keyed String String)
  | user (c : Credentials)
  | schema (n : Option SchemaNode)
  | option (v : Option OptionValue)

/-- The reply of an operation that can fail. -/
def Reply.ofExcept {α : Type} (given : α → Reply) : Except Error α → Reply
  | .ok a => given a
  | .error e => .failed e

/-! ### Looking -/

/-- What can be seen of a session. -/
inductive Look where
  | id
  | credentials
  | property (name : String)
  /-- All properties that are shown. -/
  | properties
  | target
  /-- An option, with the system's bag as it is at that time. -/
  | option (system : SystemOptions) (name : String)
  | optionCount
  | supportsComplexTypes
  | defaultSchemaPath
  | defaultSchema (root : SchemaNode)
  | queryCount
  | tableAlias (name : String)
  | tableCount
  | locationCount
  /-- The description for people. -/
  | description

/-- What is seen. -/
def look (s : Session) : Look → Reply
  | .id => .text (some s.id)
  | .credentials => .user s.credentials
  | .property name => .text (s.properties.find? name)
  | .properties => .texts s.properties.snapshot
  | .target => .text s.target?
  | .option system name => .option (s.options.find? system name)
  | .optionCount => .count s.options.size
  | .supportsComplexTypes => .flag s.supportsComplexTypes
  | .defaultSchemaPath => .text (some s.defaultSchemaPath)
  | .defaultSchema root => .schema (s.defaultSchema? root)
  | .queryCount => .count s.queryCount.toNat
  | .tableAlias name => .text (s.tables.resolve? name)
  | .tableCount => .count s.tables.size
  | .locationCount => .count s.locations.size
  | .description => .text (some s.describe)

/-! ### Calling -/

/-- One call, with what it answers. -/
def serve (storages : Storages σ) (workspaces : Workspaces σ) (s : Session) :
    Call σ → Action σ (Reply × Session)
  | .actForTarget authority => do
    let (result, s) ← s.actForTarget authority
    pure (.ofExcept (fun _ => .done) result, s)
  | .replaceCredentials authority credentials => do
    let (result, s) ← s.replaceCredentials authority.id credentials
    pure (.ofExcept (fun _ => .done) result, s)
  | .setDefaultSchema path current => do
    let (result, s) ← s.setDefaultSchema path current
    pure (.ofExcept (fun _ => .done) result, s)
  | .setOption v => pure (.done, { s with options := s.options.set v })
  | .applyOptions vs => pure (.done, { s with options := s.options.applyAll vs })
  | .submit queryId => do
    let s ← s.submit queryId
    pure (.done, s)
  | .registerTable w name token => do
    let (result, s) ← s.registerTable storages w name token
    pure (.ofExcept (fun tableAlias => .text (some tableAlias)) result, s)
  | .isTemporaryTable w settings name => do
    let result ← (s.isTemporaryTable workspaces w settings name).outcome
    pure (.ofExcept .flag result, s)
  | .removeTable w name => do
    let (result, s) ← s.removeTable workspaces w name
    pure (.ofExcept (fun _ => .done) result, s)
  | .close => do
    let s ← s.close storages
    pure (.done, s)
  | .outside change => consult fun outside => ((.done, s), change outside)

/-- A call that answers leaves the same as one whose answer nobody waits for. -/
theorem perform_eq_serve (storages : Storages σ) (workspaces : Workspaces σ) (s : Session)
    (call : Call σ) : s.perform storages workspaces call =
      Prod.snd <$> s.serve storages workspaces call := by
  cases call <;> rfl

/-- A call, or a look. -/
inductive Inquiry (σ : Type) where
  | call (c : Call σ)
  | look (l : Look)

/-- One inquiry. -/
def inquire (storages : Storages σ) (workspaces : Workspaces σ) (s : Session) :
    Inquiry σ → Action σ (Reply × Session)
  | .call c => s.serve storages workspaces c
  | .look l => pure (s.look l, s)

/-- Inquiries, one after the other, with all that they answer. -/
def converse (storages : Storages σ) (workspaces : Workspaces σ) (s : Session) :
    List (Inquiry σ) → Action σ (List Reply × Session)
  | [] => pure ([], s)
  | i :: rest => do
    let (reply, s) ← s.inquire storages workspaces i
    let (replies, s) ← s.converse storages workspaces rest
    pure (reply :: replies, s)

end Session

/-- How a session comes about. -/
inductive Opening where
  /-- From its request alone. -/
  | built
  /-- By an establisher. -/
  | established (e : Establisher)

/-- All that is outside. -/
structure Services (σ : Type) where
  storages : Storages σ
  workspaces : Workspaces σ
  providers : Providers σ

variable {σ : Type}

/-- The session that comes about. -/
def Opening.session (providers : Providers σ) (r : SessionRequest) (id : String) :
    Opening → Attempt σ Session
  | .built => Session.build r id
  | .established e => e.establish providers r id

/-- A visit from the beginning to the end, with all that it answers. -/
def Services.visit (outside : Services σ) (opening : Opening) (r : SessionRequest) (id : String)
    (inquiries : List (Session.Inquiry σ)) : Attempt σ (List Session.Reply) := do
  let s ← opening.session outside.providers r id
  let (replies, s) ← ExceptT.lift (s.converse outside.storages outside.workspaces inquiries)
  ExceptT.lift s.abandon
  pure replies

end QuerySession
