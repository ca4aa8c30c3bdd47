import QuerySession.Proofs.Provenance
import QuerySession.Proofs.TableHistory
import QuerySession.Proofs.Turns

/-!
# The parts of a session

A session counts queries, knows a default schema, holds options, has a user, and keeps temporary tables
with their locations.  Each of these parts is changed by calls of its own and by no others.  So two runs
of calls on a session may be as different as they like: if the calls on one part are the same, this part
ends up the same.

## Main Definitions

* `Session.Part`, `Session.Call.part?` — the parts, and which of them a call is about
* `Session.SameCalls`, `Session.SameTurns` — two runs have the same calls on a part
* `Tables.Corresponds` — aliases that stand for each other in two runs
* `Session.Apart` — what is promised of two runs

## Main Results

* `Session.foldl_left` — a part after a run, by the calls on it
* `Session.parts_apart` — the promise is kept

## Implementation Notes

A part is a function of the session that is stepped by the calls on it and left alone by all others
(`Steps`).  Queries, schema, options and user are stepped by what was called, tables and locations also
by what the outside answered.  Query ids and the tokens of aliases are made up by chance, so that calls
are compared without them (`Call.shape`).
-/

namespace QuerySession

variable {σ : Type}

/-! ## Tables of two runs -/

namespace Tables

/-- Aliases that stand for each other: those of the tables that there were, and those that are made of
tokens that came together. -/
inductive Corresponds (t : Tables) (tokens : List (String × String)) : String → String → Prop
  | kept {key tableAlias : String} (known : t.aliases.find? key = some tableAlias) :
      Corresponds t tokens tableAlias tableAlias
  | made {token token' : String} (together : (token, token') ∈ tokens) :
      Corresponds t tokens (t.aliasOf token) (t.aliasOf token')

/-- With the same tokens only equal aliases stand for each other. -/
theorem Corresponds.eq {t : Tables} {tokens : List String} {a b : String}
    (h : t.Corresponds (tokens.zip tokens) a b) : a = b := by
  cases h with
  | kept => rfl
  | made together =>
    rw [List.zip, List.zipWith_self, List.mem_map] at together
    obtain ⟨token, -, same⟩ := together
    cases same
    rfl

/-- Two tables have grown out of the same with tokens that came together. -/
structure Parallel (t : Tables) (tokens : List (String × String)) (a b : Tables) : Prop where
  first : a.sessionId = t.sessionId
  second : b.sessionId = t.sessionId
  aliases : ∀ key, Option.Rel (t.Corresponds tokens) (a.aliases.find? key) (b.aliases.find? key)

namespace Parallel

variable {t a b : Tables} {tokens : List (String × String)}

theorem refl (t : Tables) (tokens : List (String × String)) : Parallel t tokens t t := by
  refine ⟨rfl, rfl, fun key => ?_⟩
  cases known : t.aliases.find? key with
  | none => exact .none
  | some tableAlias => exact .some (.kept known)

/-- A name gets tokens that came together, unless it has aliases, which stand for each other. -/
theorem register (h : Parallel t tokens a b) {token token' : String}
    (together : (token, token') ∈ tokens) (name : String) :
    Parallel t tokens (a.register name token).2 (b.register name token').2 := by
  refine ⟨sessionId_register.trans h.first, sessionId_register.trans h.second, fun key => ?_⟩
  rw [find?_register, find?_register]
  by_cases same : Text.lowerCase name = key
  · rw [if_pos same, if_pos same]
    refine .some ?_
    have before : Option.Rel _ (a.resolve? name) (b.resolve? name) := h.aliases _
    generalize known : a.resolve? name = found, known' : b.resolve? name = found' at before
    cases before with
    | none =>
      rw [register_of_unknown known, register_of_unknown known', aliasOf, aliasOf, h.first, h.second]
      exact .made together
    | some corresponds =>
      rw [register_of_known known, register_of_known known']
      exact corresponds
  · rw [if_neg same, if_neg same]
    exact h.aliases key

theorem remove (h : Parallel t tokens a b) (name : String) :
    Parallel t tokens (a.remove name).2 (b.remove name).2 := by
  refine ⟨h.first, h.second, fun key => ?_⟩
  rw [find?_remove, find?_remove]
  split
  · exact .none
  · exact h.aliases key

/-- With the same tokens the names resolve to the same aliases. -/
theorem resolve?_eq {tokens : List String} (h : Parallel t (tokens.zip tokens) a b) (name : String) :
    a.resolve? name = b.resolve? name := by
  have related : Option.Rel _ (a.resolve? name) (b.resolve? name) := h.aliases _
  generalize a.resolve? name = found, b.resolve? name = found' at related ⊢
  cases related with
  | none => rfl
  | some corresponds => exact congrArg some corresponds.eq

end Parallel

end Tables

namespace Session

/-! ## Calls on parts -/

/-- What changes in a session independently of the rest. -/
inductive Part where
  | queries
  | schema
  | options
  | credentials
  /-- Temporary tables and their locations. -/
  | tables
  deriving DecidableEq

/-- The part that a call is about. -/
def Call.part? : Call σ → Option Part
  | .submit _ => some .queries
  | .setDefaultSchema .. => some .schema
  | .setOption _ | .applyOptions _ => some .options
  | .actForTarget _ | .replaceCredentials .. => some .credentials
  | .registerTable .. | .removeTable .. | .close => some .tables
  | .isTemporaryTable .. | .outside _ => none

/-- A call without what is made up by chance. -/
def Call.shape : Call σ → Call σ
  | .submit _ => .submit ""
  | .registerTable w name _ => .registerTable w name ""
  | call => call

/-- The token that comes with a registration. -/
def Call.token? : Call σ → Option String
  | .registerTable _ _ token => some token
  | _ => none

/-- The calls on a part. -/
def callsOn (part : Part) (calls : List (Call σ)) : List (Call σ) :=
  calls.filter fun call => call.part? = some part

/-- The calls on a part, with the answers of the outside. -/
def turnsOn (part : Part) (turns : List (Call σ × Option Bool)) : List (Call σ × Option Bool) :=
  turns.filter fun turn => turn.1.part? = some part

/-- The calls on a part are the same, one after the other. -/
def SameCalls (part : Part) (calls calls' : List (Call σ)) : Prop :=
  (callsOn part calls).map Call.shape = (callsOn part calls').map Call.shape

/-- The calls on a part are the same, and so is what the outside answered. -/
def SameTurns (part : Part) (turns turns' : List (Call σ × Option Bool)) : Prop :=
  (turnsOn part turns).map (fun turn => (turn.1.shape, turn.2)) =
    (turnsOn part turns').map fun turn => (turn.1.shape, turn.2)

/-- The tokens that came with registrations. -/
def tokens (calls : List (Call σ)) : List String := calls.filterMap Call.token?

/-! ## What a call leaves alone -/

/-- What a call leaves alone: whatever it is not about, and what no call is about. -/
structure Keeps (s : Session) (call : Call σ) (s' : Session) : Prop where
  id : s'.id = s.id
  authority : s'.authority = s.authority
  queries : call.part? ≠ some .queries → s'.queryCount = s.queryCount
  properties : call.part? ≠ some .schema → s'.properties = s.properties
  options : call.part? ≠ some .options → s'.options = s.options
  credentials : call.part? ≠ some .credentials → s'.credentials = s.credentials
  tables : call.part? ≠ some .tables → s'.tables = s.tables ∧ s'.locations = s.locations

theorem Keeps.refl (s : Session) (call : Call σ) : Keeps s call s :=
  ⟨rfl, rfl, fun _ => rfl, fun _ => rfl, fun _ => rfl, fun _ => rfl, fun _ => ⟨rfl, rfl⟩⟩

/-- **What every call leaves alone.** -/
theorem left_keeps (s : Session) (call : Call σ) (answer : Option Bool) :
    Keeps s call (s.left call answer) := by
  cases call with
  | actForTarget authority =>
    rw [left, takenOver_eq]
    exact ⟨rfl, rfl, fun _ => rfl, fun _ => rfl, fun _ => rfl, fun other => absurd rfl other,
      fun _ => ⟨rfl, rfl⟩⟩
  | replaceCredentials authority credentials =>
    rw [left]
    split
    · exact ⟨rfl, rfl, fun _ => rfl, fun _ => rfl, fun _ => rfl, fun other => absurd rfl other,
        fun _ => ⟨rfl, rfl⟩⟩
    · exact .refl s _
  | setDefaultSchema path current =>
    rw [left]
    split
    · exact .refl s _
    · exact ⟨rfl, rfl, fun _ => rfl, fun other => absurd rfl other, fun _ => rfl, fun _ => rfl,
        fun _ => ⟨rfl, rfl⟩⟩
  | setOption v | applyOptions vs =>
    exact ⟨rfl, rfl, fun _ => rfl, fun _ => rfl, fun other => absurd rfl other, fun _ => rfl,
      fun _ => ⟨rfl, rfl⟩⟩
  | submit queryId =>
    exact ⟨rfl, rfl, fun other => absurd rfl other, fun _ => rfl, fun _ => rfl, fun _ => rfl,
      fun _ => ⟨rfl, rfl⟩⟩
  | registerTable w name token | close =>
    exact ⟨rfl, rfl, fun _ => rfl, fun _ => rfl, fun _ => rfl, fun _ => rfl,
      fun other => absurd rfl other⟩
  | removeTable w name =>
    rw [left]
    split
    · exact ⟨rfl, rfl, fun _ => rfl, fun _ => rfl, fun _ => rfl, fun _ => rfl,
        fun other => absurd rfl other⟩
    · exact .refl s _
  | isTemporaryTable w settings name | outside change => exact .refl s _

/-- Of the properties a call sets at most the default schema. -/
theorem properties_left (s : Session) (call : Call σ) (answer : Option Bool) :
    (s.left call answer).properties = s.properties ∨
      ∃ path, (s.left call answer).properties = s.properties.set Properties.schema path := by
  by_cases about : call.part? = some .schema
  · cases call with
    | setDefaultSchema path current =>
      rw [left]
      split
      · exact .inl rfl
      · exact .inr ⟨_, rfl⟩
    | _ => cases about
  · exact .inl ((s.left_keeps call answer).properties about)

/-- Properties other than the default schema stay. -/
theorem find?_left (s : Session) (call : Call σ) (answer : Option Bool) {name : String}
    (other : Text.lowerCase name ≠ Properties.schema) :
    (s.left call answer).properties.find? name = s.properties.find? name := by
  rcases s.properties_left call answer with same | ⟨path, set⟩
  · rw [same]
  · have apart : Text.lowerCase Properties.schema ≠ Text.lowerCase name := Ne.symm other
    rw [set, Properties.find?_set, if_neg apart]

/-! ## A part after a run -/

/-- A part of a session is stepped by the calls on it, and left alone by all others. -/
def Steps {α : Type} (part : Part) (view : Session → α) (step : α → Call σ × Option Bool → α) : Prop :=
  ∀ (s : Session) (turn : Call σ × Option Bool), view (s.left turn.1 turn.2) =
    if turn.1.part? = some part then step (view s) turn else view s

variable {α : Type} {part : Part} {view : Session → α}

/-- The two things that there are to show: what the calls do that are about the part, and that the others
leave it alone. -/
theorem Steps.of {step : α → Call σ × Option Bool → α}
    (own : ∀ (s : Session) (call : Call σ) answer, call.part? = some part →
      view (s.left call answer) = step (view s) (call, answer))
    (other : ∀ (s : Session) (call : Call σ) answer, call.part? ≠ some part →
      view (s.left call answer) = view s) : Steps part view step := by
  rintro s ⟨call, answer⟩
  by_cases about : call.part? = some part
  · exact (own s call answer about).trans (if_pos about).symm
  · exact (other s call answer about).trans (if_neg about).symm

/-- **A part after a run**: the calls on it have stepped it, and no others. -/
theorem foldl_left {step : α → Call σ × Option Bool → α} (steps : Steps part view step) (s : Session)
    (turns : List (Call σ × Option Bool)) :
    view (turns.foldl (fun s turn => s.left turn.1 turn.2) s) =
      (turnsOn part turns).foldl step (view s) := by
  induction turns generalizing s with
  | nil => rfl
  | cons turn turns ih =>
    rw [List.foldl_cons, ih, steps s turn, turnsOn, turnsOn, List.filter_cons]
    by_cases about : turn.1.part? = some part
    · rw [if_pos about, if_pos (decide_eq_true about), List.foldl_cons]
    · rw [if_neg about, if_neg (by simpa using about)]

theorem map_fst_turnsOn (part : Part) (turns : List (Call σ × Option Bool)) :
    (turnsOn part turns).map Prod.fst = callsOn part (turns.map Prod.fst) := by
  rw [callsOn, List.filter_map]
  rfl

/-- The same for a part that is stepped by what was called, whatever was answered and whatever was made
up by chance. -/
theorem run_calls {step : α → Call σ → α}
    (steps : Steps part view fun a turn => step a turn.1.shape) (storages : Storages σ)
    (workspaces : Workspaces σ) (s : Session) (calls : List (Call σ)) (spans : List String)
    (scene : Scene σ) : view ((s.run storages workspaces calls) spans scene).1 =
      ((callsOn part calls).map Call.shape).foldl step (view s) := by
  have on : callsOn part calls =
      (turnsOn part (s.turns storages workspaces spans scene calls)).map Prod.fst := by
    rw [map_fst_turnsOn, map_fst_turns]
  rw [run_left, foldl_left steps, on, List.map_map, List.foldl_map]
  rfl

/-! ## The parts that do not ask the outside -/

/-- The number of queries after one more. -/
def countAfter (n : UInt64) (_ : Call σ) : UInt64 := n + 1

theorem steps_queryCount :
    Steps (σ := σ) .queries queryCount fun n turn => countAfter n turn.1.shape := by
  refine .of (fun s call answer about => ?_) fun s call answer => (s.left_keeps call answer).queries
  cases call with
  | submit queryId => rfl
  | _ => cases about

/-- The dotted path of the default schema after one call. -/
def schemaAfter (standing : String) : Call σ → String
  | .setDefaultSchema path current =>
    match current.resolve path with
    | .error _ => standing
    | .ok node => node.canonical
  | _ => standing

theorem steps_defaultSchemaPath :
    Steps (σ := σ) .schema defaultSchemaPath fun standing turn => schemaAfter standing turn.1.shape := by
  refine .of (fun s call answer about => ?_) fun s call answer other => ?_
  · cases call with
    | setDefaultSchema path current =>
      simp only [left, Call.shape, schemaAfter]
      cases current.resolve path with
      | error e => rfl
      | ok node => simp [defaultSchemaPath, Properties.findD, Properties.find?_set]
    | _ => cases about
  · rw [defaultSchemaPath, (s.left_keeps call answer).properties other, defaultSchemaPath]

/-- The options after one call. -/
def optionsAfter (standing : SessionOptions) : Call σ → SessionOptions
  | .setOption v => standing.set v
  | .applyOptions vs => standing.applyAll vs
  | _ => standing

theorem steps_options :
    Steps (σ := σ) .options options fun standing turn => optionsAfter standing turn.1.shape := by
  refine .of (fun s call answer about => ?_) fun s call answer => (s.left_keeps call answer).options
  cases call with
  | setOption v | applyOptions vs => rfl
  | _ => cases about

/-- What decides who is connected: the user, the authority that may replace it, and the user to act
for. -/
def standing (s : Session) : Credentials × Option AuthorityId × Option String :=
  (s.credentials, s.authority, s.target?)

/-- Who is connected after one call. -/
def standingAfter : Credentials × Option AuthorityId × Option String → Call σ →
    Credentials × Option AuthorityId × Option String
  | (connected, accepted, target), .actForTarget authority =>
    if target.getD "" ≠ "" ∧ authority.allows connected.userName (target.getD "") = true ∧
        accepted = some authority.id then
      (⟨target.getD ""⟩, accepted, target)
    else (connected, accepted, target)
  | (connected, accepted, target), .replaceCredentials authority credentials =>
    if accepted = some authority.id ∧ credentials.userName ≠ "" then (credentials, accepted, target)
    else (connected, accepted, target)
  | before, _ => before

/-- The user to act for stays. -/
theorem target?_left (s : Session) (call : Call σ) (answer : Option Bool) :
    (s.left call answer).target? = s.target? :=
  s.find?_left call answer (by decide)

theorem steps_standing :
    Steps (σ := σ) .credentials standing fun before turn => standingAfter before turn.1.shape := by
  refine .of (fun s call answer about => ?_) fun s call answer other => ?_
  · cases call with
    | actForTarget authority =>
      simp only [left, takenOver, Call.shape, standingAfter, standing]
      split <;> rfl
    | replaceCredentials authority credentials =>
      simp only [left, Call.shape, standingAfter, standing]
      split <;> rfl
    | _ => cases about
  · have keeps := s.left_keeps call answer
    rw [standing, keeps.credentials other, keeps.authority, target?_left, standing]

/-! ## Temporary tables and their locations -/

/-- What a session keeps of its tables. -/
def holdings (s : Session) : Tables × Locations := (s.tables, s.locations)

/-- The tables and locations after one call, by what the outside has answered. -/
def holdingsAfter : Tables × Locations → Call σ × Option Bool → Tables × Locations
  | (t, l), (.registerTable w name token, answer) =>
    let done := l.ensured w (answer.getD false)
    (if done.1 then (t.register name token).2 else t, done.2)
  | (t, l), (.removeTable _ name, answer) => (if answer.getD false then (t.remove name).2 else t, l)
  | (t, l), (.close, _) => (t, l.drain.2)
  | before, _ => before

theorem holdingsAfter_registerTable (t : Tables) (l : Locations) (w : Workspace)
    (name token : String) (answer : Option Bool) :
    holdingsAfter (σ := σ) (t, l) (.registerTable w name token, answer) =
      let done := l.ensured w (answer.getD false)
      (if done.1 then (t.register name token).2 else t, done.2) := rfl

theorem steps_holdings : Steps (σ := σ) .tables holdings holdingsAfter := by
  refine .of (fun s call answer about => ?_) fun s call answer other => ?_
  · cases call with
    | registerTable w name token | close => rfl
    | removeTable w name =>
      simp only [left, holdingsAfter, holdings]
      split <;> rfl
    | _ => cases about
  · obtain ⟨tables, locations⟩ := (s.left_keeps call answer).tables other
    rw [holdings, tables, locations, holdings]

/-- Calls on tables of the same shape are the same, or registrations with other tokens. -/
theorem eq_or_register {call call' : Call σ} (same : call.shape = call'.shape)
    (about : call.part? = some .tables) : (call = call' ∧ call.token? = none) ∨
      ∃ w name token token', call = .registerTable w name token ∧
        call' = .registerTable w name token' := by
  cases call with
  | registerTable w name token =>
    cases call' with
    | registerTable w' name' token' =>
      cases same
      exact .inr ⟨w, name, token, token', rfl, rfl⟩
    | _ => cases same
  | removeTable w name | close =>
    cases call' <;> cases same
    exact .inl ⟨rfl, rfl⟩
  | _ => cases about

/-- The same calls on tables with the same answers leave the same locations, and tables that
correspond. -/
theorem foldl_holdingsAfter {t a b : Tables} {together : List (String × String)}
    {turns turns' : List (Call σ × Option Bool)}
    (same : List.Forall₂ (fun turn turn' => turn.1.shape = turn'.1.shape ∧ turn.2 = turn'.2) turns
      turns')
    (about : ∀ turn ∈ turns, turn.1.part? = some .tables)
    (within : ∀ pair ∈ (tokens (turns.map Prod.fst)).zip (tokens (turns'.map Prod.fst)),
      pair ∈ together)
    (parallel : t.Parallel together a b) (l : Locations) :
    t.Parallel together (turns.foldl holdingsAfter (a, l)).1 (turns'.foldl holdingsAfter (b, l)).1 ∧
      (turns.foldl holdingsAfter (a, l)).2 = (turns'.foldl holdingsAfter (b, l)).2 := by
  induction same generalizing a b l with
  | nil => exact ⟨parallel, rfl⟩
  | @cons turn turn' turns turns' alike rest ih =>
    obtain ⟨call, answer⟩ := turn
    obtain ⟨call', answer'⟩ := turn'
    obtain ⟨shape, same⟩ := alike
    obtain rfl : answer = answer' := same
    obtain ⟨first, others⟩ := List.forall_mem_cons.mp about
    rcases eq_or_register shape first with ⟨rfl, untold⟩ | ⟨w, name, token, token', rfl, rfl⟩
    · cases call with
      | removeTable w name =>
        refine ih others within ?_ l
        split
        · exact parallel.remove name
        · exact parallel
      | close => exact ih others within parallel l.drain.2
      | registerTable w name token => cases untold
      | _ => cases first
    · obtain ⟨pair, pairs⟩ := List.forall_mem_cons.mp within
      rw [List.foldl_cons, List.foldl_cons, holdingsAfter_registerTable, holdingsAfter_registerTable]
      generalize l.ensured w (answer.getD false) = done
      obtain ⟨there, l⟩ := done
      refine ih others pairs ?_ l
      cases there with
      | true => exact parallel.register pair name
      | false => exact parallel

/-- Only calls on tables come with tokens. -/
theorem tokens_callsOn (calls : List (Call σ)) : tokens (callsOn .tables calls) = tokens calls := by
  rw [tokens, callsOn, List.filterMap_filter]
  refine congrArg (List.filterMap · calls) (funext fun call => ?_)
  cases call <;> rfl

/-- **Tables and locations of two runs**, by the calls on them and the answers. -/
theorem parallel_of_sameTurns {storages : Storages σ} {workspaces : Workspaces σ} {s : Session}
    {calls calls' : List (Call σ)} {spans spans' : List String} {scene scene' : Scene σ}
    (same : SameTurns .tables (s.turns storages workspaces spans scene calls)
      (s.turns storages workspaces spans' scene' calls')) :
    let a := ((s.run storages workspaces calls) spans scene).1
    let b := ((s.run storages workspaces calls') spans' scene').1
    s.tables.Parallel ((tokens calls).zip (tokens calls')) a.tables b.tables ∧
      a.locations = b.locations := by
  intro a b
  have a_eq : (a.tables, a.locations) = _ := (congrArg holdings (run_left ..)).trans
    (foldl_left steps_holdings s (s.turns storages workspaces spans scene calls))
  have b_eq : (b.tables, b.locations) = _ := (congrArg holdings (run_left ..)).trans
    (foldl_left steps_holdings s (s.turns storages workspaces spans' scene' calls'))
  rw [SameTurns, ← List.forall₂_eq_eq_eq, List.forall₂_map_left_iff, List.forall₂_map_right_iff]
    at same
  have alike := same.imp fun turn turn' h => Prod.mk.inj h
  have start := Tables.Parallel.refl s.tables ((tokens calls).zip (tokens calls'))
  have within : ∀ pair ∈ (tokens ((turnsOn .tables (s.turns storages workspaces spans scene
      calls)).map Prod.fst)).zip (tokens ((turnsOn .tables (s.turns storages workspaces spans' scene'
        calls')).map Prod.fst)), pair ∈ (tokens calls).zip (tokens calls') := by
    rw [map_fst_turnsOn, map_fst_turnsOn, map_fst_turns, map_fst_turns, tokens_callsOn,
      tokens_callsOn]
    exact fun pair mem => mem
  have together := foldl_holdingsAfter alike
    (fun turn mem => of_decide_eq_true (List.mem_filter.mp mem).2) within start s.locations
  have holdings_eq : s.holdings = (s.tables, s.locations) := rfl
  rw [← holdings_eq, ← a_eq, ← b_eq] at together
  exact together

/-! ## All parts -/

/-- What is promised of a session after a run: `a` is what it has become. -/
structure Kept (s : Session) (calls : List (Call σ)) (a : Session) : Prop where
  /-- It is the same session. -/
  id : a.id = s.id
  /-- No property ever changes but the default schema. -/
  properties : ∀ name, Text.lowerCase name ≠ Properties.schema →
    a.properties.find? name = s.properties.find? name
  /-- As many queries are counted as there were, up to the size of the counter. -/
  counted : a.queryCount.toNat =
    (s.queryCount.toNat + (callsOn .queries calls).length) % UInt64.size

/-- What is promised of two runs on a session, with as many calls as there may be: `a` and `b` are what
it has become, each part by the calls on it.  Calls on other parts do not matter. -/
structure Apart (s : Session) (calls calls' : List (Call σ)) (turns turns' : List (Call σ × Option Bool))
    (a b : Session) : Prop where
  first : Kept s calls a
  second : Kept s calls' b
  queries : SameCalls .queries calls calls' → a.queryCount = b.queryCount
  schema : SameCalls .schema calls calls' → a.defaultSchemaPath = b.defaultSchemaPath
  options : SameCalls .options calls calls' →
    ∀ system name, a.options.find? system name = b.options.find? system name
  credentials : SameCalls .credentials calls calls' → a.credentials = b.credentials
  /-- If storages and workspaces have answered alike, the names resolve to aliases that stand for each
  other. -/
  aliases : SameTurns .tables turns turns' → ∀ name,
    Option.Rel (s.tables.Corresponds ((tokens calls).zip (tokens calls')))
      (a.tables.resolve? name) (b.tables.resolve? name)
  /-- They are the same aliases if the tokens happen to be the same. -/
  same_aliases : SameTurns .tables turns turns' → tokens calls = tokens calls' →
    ∀ name, a.tables.resolve? name = b.tables.resolve? name
  locations : SameTurns .tables turns turns' →
    a.locations = b.locations ∧ a.locations.size = b.locations.size

/-- A counter goes round. -/
theorem toNat_foldl_countAfter (calls : List (Call σ)) (n : UInt64) :
    (calls.foldl countAfter n).toNat = (n.toNat + calls.length) % UInt64.size := by
  induction calls generalizing n with
  | nil => exact (Nat.mod_eq_of_lt n.toNat_lt_size).symm
  | cons call calls ih =>
    rw [List.foldl_cons, ih, countAfter, UInt64.toNat_add, List.length_cons]
    simp only [UInt64.size, UInt64.toNat_one]
    omega

theorem run_kept (storages : Storages σ) (workspaces : Workspaces σ) (s : Session)
    (calls : List (Call σ)) (spans : List String) (scene : Scene σ) :
    Kept s calls ((s.run storages workspaces calls) spans scene).1 := by
  constructor
  case id =>
    exact run_invariant (P := fun a => a.id = s.id)
      (fun a call answer same => (a.left_keeps call answer).id.trans same) rfl ..
  case properties =>
    intro name other
    exact run_invariant (P := fun a => a.properties.find? name = s.properties.find? name)
      (fun a call answer same => (a.find?_left call answer other).trans same) rfl ..
  case counted =>
    rw [run_calls steps_queryCount, toNat_foldl_countAfter, List.length_map]

/-- **The parts of a session are independent.**  Whatever calls are made on a session in two runs, and
whatever storages and workspaces do, the promise is kept. -/
theorem parts_apart (storages : Storages σ) (workspaces : Workspaces σ) (s : Session)
    (calls calls' : List (Call σ)) (spans spans' : List String) (scene scene' : Scene σ) :
    Apart s calls calls' (s.turns storages workspaces spans scene calls)
      (s.turns storages workspaces spans' scene' calls')
      ((s.run storages workspaces calls) spans scene).1
      ((s.run storages workspaces calls') spans' scene').1 where
  first := run_kept ..
  second := run_kept ..
  queries same := by
    rw [run_calls steps_queryCount, run_calls steps_queryCount, same]
  schema same := by
    rw [run_calls steps_defaultSchemaPath, run_calls steps_defaultSchemaPath, same]
  options same system name := by rw [run_calls steps_options, run_calls steps_options, same]
  credentials same := by
    have standing_eq := (run_calls steps_standing storages workspaces s calls spans scene).trans
      ((congrArg (List.foldl standingAfter s.standing) same).trans
        (run_calls steps_standing storages workspaces s calls' spans' scene').symm)
    exact congrArg Prod.fst standing_eq
  aliases same name := (parallel_of_sameTurns same).1.aliases _
  same_aliases same tokens_eq name := by
    have parallel := (parallel_of_sameTurns same).1
    rw [← tokens_eq] at parallel
    exact parallel.resolve?_eq name
  locations same :=
    have all := (parallel_of_sameTurns same).2
    ⟨all, congrArg Locations.size all⟩

/-- A session whose client named a user and a schema. -/
def plainly : Session :=
  .ofRequest ⟨some ⟨"u"⟩, [("user", "alice"), ("schema", "dfs")], false, false, none, []⟩ "s" ⟨"u"⟩

/-- Two queries, a table and an option. -/
def talk : List (Call Unit) :=
  [.submit "q", .registerTable Service.scratch "T" "a", .setOption ⟨.session, "limit", .whole 5⟩,
    .submit "r"]

/-- The same, with other ids and tokens, in another order and with other calls between. -/
def sidelong : List (Call Unit) :=
  [.setOption ⟨.session, "limit", .whole 5⟩, .registerTable Service.scratch "T" "b",
    .replaceCredentials stranger ⟨"mallory"⟩, .submit "x", .outside fun _ => (), .submit "y"]

/-- Either way there are two queries and the option, and the table has the alias of its token. -/
theorem parts_apart_sidelong :
    let a := ((plainly.run Service.willing Service.abundant talk) [] ⟨(), []⟩).1
    let b := ((plainly.run Service.willing Service.abundant sidelong) [] ⟨(), []⟩).1
    SameCalls .queries talk sidelong ∧ SameCalls .options talk sidelong ∧
      SameTurns .tables (plainly.turns Service.willing Service.abundant [] ⟨(), []⟩ talk)
        (plainly.turns Service.willing Service.abundant [] ⟨(), []⟩ sidelong) ∧
        a.queryCount = b.queryCount ∧ a.queryCount.toNat = 2 ∧
          (∀ system name, a.options.find? system name = b.options.find? system name) ∧
            (∀ name, Option.Rel (plainly.tables.Corresponds [("a", "b")]) (a.tables.resolve? name)
              (b.tables.resolve? name)) ∧
              a.tables.resolve? "t" = some "s/a" ∧ b.tables.resolve? "t" = some "s/b" ∧
                a.locations.size = b.locations.size ∧ a.locations.size = 1 := by
  intro a b
  have apart := parts_apart Service.willing Service.abundant plainly talk sidelong [] [] ⟨(), []⟩
    ⟨(), []⟩
  have queries : SameCalls .queries talk sidelong := rfl
  have options : SameCalls .options talk sidelong := rfl
  have tables : SameTurns .tables (plainly.turns Service.willing Service.abundant [] ⟨(), []⟩ talk)
      (plainly.turns Service.willing Service.abundant [] ⟨(), []⟩ sidelong) := rfl
  exact ⟨queries, options, tables, apart.queries queries, apart.first.counted, apart.options options,
    apart.aliases tables, rfl, rfl, (apart.locations tables).2, rfl⟩

end Session

end QuerySession
