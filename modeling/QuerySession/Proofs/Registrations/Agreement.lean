import QuerySession.Proofs.Histories
import QuerySession.Proofs.Registrations.Step
import QuerySession.Proofs.Tables

/-!
# Registrations that overlap

A registration has its location asked for, waits, and then gives its table an alias unless
somebody was faster.  `Registrations.Reached.agreed` is what any number of them can rely on while
nothing is removed, whatever the storages answer and whenever the session is closed: names of the
same lower-casing have one alias and other names have others, an error leaves no trace in the
tables, and the tables hold what was answered and nothing else.

The proof follows the errands: errand `k` belongs to the `k`th call of the schedule (`orders`),
and every alias in the tables was given by an errand that returned, and made of the token that
came with its call (`Registrations.Gave`, `Registrations.Served`).  Distinct tokens then make
distinct aliases (`Gave.key_unique`).

## Main Definitions

* `Registrations.Reached` — the states of a session, with the schedule that leads to them
* `Registrations.orders`, `Registrations.tokens` — the calls of a schedule, and the tokens that came
  with them
* `Registrations.Gave`, `Registrations.Served` — where the aliases and the answers come from
* `Registrations.Agreed` — the promise

## Main Results

* `Registrations.Served.step` — every step keeps to `Registrations.Served`
* `Registrations.Served.fresh` — no alias is given twice
* `Registrations.Reached.agreed` — the promise is kept
-/

namespace QuerySession.Registrations

variable {uri : String → String} {d e : Registrations} {moves placed : List Move}

/-! ## Schedules from the beginning -/

/-- A schedule leads from the making of some session to `d`. -/
def Reached (uri : String → String) (moves : List Move) (d : Registrations) : Prop :=
  ∃ r id credentials, (ofSession (Session.ofRequest r id credentials)).run uri moves = some d

theorem Reached.reachable (h : Reached uri moves d) : Reachable uri d := by
  obtain ⟨r, id, credentials, reached⟩ := h
  exact ⟨r, id, credentials, moves, reached⟩

/-- What is reached in a trial is reached. -/
theorem Reached.of_trial (h : fresh.run uri moves = some d) : Reached uri moves d :=
  ⟨_, _, _, h⟩

/-- **Invariants of a session, with its schedule.**  What holds at the start and survives every step
holds wherever a schedule leads. -/
theorem Reached.induction {motive : List Move → Registrations → Prop}
    (start : ∀ r id credentials, motive [] (ofSession (Session.ofRequest r id credentials)))
    (step : ∀ {moves : List Move} {m : Move} {d e : Registrations}, Reached uri moves d →
      d.step uri m = some e → motive moves d → motive (moves ++ [m]) e)
    (h : Reached uri moves d) : motive moves d := by
  obtain ⟨r, id, credentials, reached⟩ := h
  exact Schedule.induction (start r id credentials)
    (fun earlier one before => step ⟨r, id, credentials, earlier⟩ one before) reached

/-! ## Calls and their tokens -/

/-- Whether a move is a new call on the session. -/
def Move.isOrder : Move → Bool
  | register .. | close => true
  | locations _ | enlist _ | report _ => false

/-- The token that comes with a call. -/
def Move.token? : Move → Option String
  | register _ _ token => some token
  | _ => none

/-- The calls of a schedule, in order; the `k`th of them is errand `k`. -/
def orders (moves : List Move) : List Move := moves.filter Move.isOrder

/-- The tokens that came with the calls of a schedule. -/
def tokens (moves : List Move) : List String := moves.filterMap Move.token?

@[simp] theorem orders_append (moves later : List Move) :
    orders (moves ++ later) = orders moves ++ orders later := List.filter_append ..

/-- Only calls bring tokens. -/
theorem tokens_orders (moves : List Move) : tokens (orders moves) = tokens moves := by
  unfold tokens orders
  rw [List.filterMap_filter]
  congr 1
  funext m
  cases m <;> rfl

/-- Tokens that are distinct were so before more calls were made. -/
theorem nodup_tokens_of_append {later : List Move} (distinct : (tokens (moves ++ later)).Nodup) :
    (tokens moves).Nodup := by
  unfold tokens at distinct
  rw [List.filterMap_append] at distinct
  exact distinct.of_append_left

/-- No two calls come with the same token, if the tokens are distinct. -/
theorem order_unique (distinct : (tokens placed).Nodup) {j k : Nat} {v w : Workspace}
    {name other token : String} (left : placed[j]? = some (.register v name token))
    (right : placed[k]? = some (.register w other token)) : j = k := by
  -- One order of two different places would do; take the earlier one first.
  have apart {j k : Nat} {v w : Workspace} {name other : String} (earlier : j < k)
      (left : placed[j]? = some (.register v name token))
      (right : placed[k]? = some (.register w other token)) : False := by
    rw [tokens, List.Nodup, List.pairwise_filterMap, List.pairwise_iff_getElem] at distinct
    obtain ⟨hj, atj⟩ := List.getElem?_eq_some_iff.mp left
    obtain ⟨hk, atk⟩ := List.getElem?_eq_some_iff.mp right
    have differ := distinct j k hj hk earlier
    rw [atj, atk] at differ
    exact differ token rfl token rfl rfl
  rcases Nat.lt_trichotomy j k with earlier | same | later
  · exact (apart earlier left right).elim
  · exact same
  · exact (apart later right left).elim

/-! ## What a step does to registrations -/

/-- The errands after one that came further. -/
theorem getElem?_settle {k : Nat} {old : Errand} (at_ : d.errands[k]? = some old) (errand : Errand)
    (tables : Tables) (j : Nat) :
    (d.settle k errand tables).errands[j]? = if k = j then some errand else d.errands[j]? :=
  getElem?_set_of_some at_ errand j

/-- What a settled errand does not touch. -/
theorem getElem?_settle_of_ne {k j : Nat} {old was : Errand} (at_ : d.errands[k]? = some old)
    (errand : Errand) (tables : Tables) (other : d.errands[j]? = some was) (differ : old ≠ was) :
    (d.settle k errand tables).errands[j]? = some was := by
  rw [getElem?_settle at_, if_neg, other]
  rintro rfl
  exact differ (Option.some.inj (at_.symm.trans other))

/-- There is one more errand for each call that is made. -/
theorem Step.length_errands {m : Move} (taken : Step uri d m e) :
    e.errands.length = d.errands.length + (orders [m]).length := by
  cases taken with
  | locations one => rfl
  | registering w name token => exact List.length_append
  | closing => exact List.length_append
  | registered errand stage => exact List.length_set
  | refused errand stage => exact List.length_set
  | closed errand stage => exact List.length_set

/-- A registration that returned has returned for good. -/
theorem Step.returned_kept {m : Move} (taken : Step uri d m e) {k : Nat} {name : String}
    {result : Except Error String} (at_ : d.errands[k]? = some (.registered name result)) :
    e.errands[k]? = some (.registered name result) := by
  cases taken with
  | locations one => exact at_
  | registering w name token => exact getElem?_append_of_some at_ _
  | closing => exact getElem?_append_of_some at_ _
  | registered errand stage | refused errand stage | closed errand stage =>
    exact getElem?_settle_of_ne errand _ _ at_ (by simp)

/-- A registration that waits did so before, or is the call that was made. -/
theorem Step.pending_cases {m : Move} (taken : Step uri d m e) {k call : Nat} {name token : String}
    (at_ : e.errands[k]? = some (.registering call name token)) :
    d.errands[k]? = some (.registering call name token) ∨
      ∃ w, m = .register w name token ∧ k = d.errands.length ∧
        .called call (.ensure w) ∈ e.calls.history := by
  cases taken with
  | locations one => exact .inl at_
  | registering w other token' =>
    rcases getElem?_concat at_ with old | ⟨here, same⟩
    · exact .inl old
    · cases same
      exact .inr ⟨w, rfl, here, List.mem_append_right _ (List.mem_singleton_self _)⟩
  | closing =>
    rcases getElem?_concat at_ with old | ⟨-, same⟩
    · exact .inl old
    · cases same
  | registered errand stage | refused errand stage | closed errand stage =>
    rw [getElem?_settle errand] at at_
    split at at_
    · cases at_
    · exact .inl at_

/-- A registration that returned an alias did so before, or does it now. -/
theorem Step.granted_cases {m : Move} (taken : Step uri d m e) {k : Nat} {name tableAlias : String}
    (at_ : e.errands[k]? = some (.registered name (.ok tableAlias))) :
    d.errands[k]? = some (.registered name (.ok tableAlias)) ∨
      ∃ call token path answered, d.errands[k]? = some (.registering call name token) ∧
        d.calls.stages[call]? = some (.ensured path (.ok answered)) ∧
          (d.tables.register name token).1 = tableAlias ∧
            (d.tables.register name token).2 = e.tables := by
  cases taken with
  | locations one => exact .inl at_
  | registering w other token | closing =>
    rcases getElem?_concat at_ with old | ⟨-, same⟩
    · exact .inl old
    · cases same
  | refused errand stage | closed errand stage =>
    rw [getElem?_settle errand] at at_
    split at at_
    · cases at_
    · exact .inl at_
  | registered errand stage =>
    rw [getElem?_settle errand] at at_
    split at at_
    · rename_i here
      cases here
      cases at_
      exact .inr ⟨_, _, _, _, errand, stage, rfl, rfl⟩
    · exact .inl at_

/-- The tables are as before, or a registration returns the alias that its name has now. -/
theorem Step.tables_cases {m : Move} (taken : Step uri d m e) : e.tables = d.tables ∨
    ∃ (k call : Nat) (name token : String), d.errands[k]? = some (.registering call name token) ∧
      e.errands[k]? = some (.registered name (.ok (d.tables.register name token).1)) ∧
        e.tables = (d.tables.register name token).2 := by
  cases taken with
  | registered errand stage =>
    refine .inr ⟨_, _, _, _, errand, ?_, rfl⟩
    rw [getElem?_settle errand, if_pos rfl]
  | _ => exact .inl rfl

/-- Aliases are made alike all along. -/
theorem Step.aliasOf_eq {m : Move} (taken : Step uri d m e) (token : String) :
    e.tables.aliasOf token = d.tables.aliasOf token := by
  rcases taken.tables_cases with same | ⟨k, call, name, token', -, -, new⟩
  · rw [same]
  · rw [new, Tables.aliasOf_register]

/-- Locations are where they are all along. -/
theorem pathIn_of_step {m : Move} (one : d.step uri m = some e) (w : Workspace) :
    e.calls.pathIn w = d.calls.pathIn w := by
  rcases calls_of_step one with same | ⟨m', go⟩
  · rw [same]
  · obtain ⟨happening, taken⟩ := LocationCalls.Step.of_step go
    rw [LocationCalls.pathIn, taken.sessionId_eq]
    rfl

/-! ## Where aliases come from -/

/-- One of the calls `placed`, a registration of a name with this lower-casing, has returned an
alias, which was made of the token that came with it. -/
def Gave (placed : List Move) (d : Registrations) (key tableAlias : String) : Prop :=
  ∃ (k : Nat) (w : Workspace) (name token : String),
    placed[k]? = some (.register w name token) ∧
      d.errands[k]? = some (.registered name (.ok tableAlias)) ∧ Text.lowerCase name = key ∧
        tableAlias = d.tables.aliasOf token

/-- Errand `k` belongs to the `k`th of the calls `placed`.  A registration that returned an alias
had its location made, and every alias in the tables was given by one. -/
structure Served (placed : List Move) (d : Registrations) : Prop where
  length_eq : d.errands.length = placed.length
  pending : ∀ (k call : Nat) (name token : String),
    d.errands[k]? = some (.registering call name token) →
      ∃ w, placed[k]? = some (.register w name token) ∧
        .called call (.ensure w) ∈ d.calls.history
  made : ∀ (k : Nat) (name tableAlias : String),
    d.errands[k]? = some (.registered name (.ok tableAlias)) →
      ∃ w token, placed[k]? = some (.register w name token) ∧
        LocationCalls.Made (d.calls.pathIn w) d.calls.history
  giver : ∀ key tableAlias : String,
    d.tables.aliases.find? key = some tableAlias → Gave placed d key tableAlias

/-- An alias that was given was given for good. -/
theorem Gave.kept {key tableAlias : String} (gave : Gave placed d key tableAlias) {m : Move}
    (taken : Step uri d m e) : Gave (placed ++ orders [m]) e key tableAlias := by
  obtain ⟨k, w, name, token, order, errand, lower, of_token⟩ := gave
  refine ⟨k, w, name, token, getElem?_append_of_some order _, taken.returned_kept errand, lower, ?_⟩
  rw [taken.aliasOf_eq, of_token]

/-- Aliases that were given are told apart by their names, if the tokens are distinct. -/
theorem Gave.key_unique (distinct : (tokens placed).Nodup) {key key' tableAlias : String}
    (left : Gave placed d key tableAlias) (right : Gave placed d key' tableAlias) : key = key' := by
  obtain ⟨j, v, name, token, orderj, errandj, rfl, rfl⟩ := left
  obtain ⟨k, w, other, token', orderk, errandk, rfl, same⟩ := right
  rw [← Tables.aliasOf_inj.mp same] at orderk
  cases order_unique distinct orderj orderk
  cases errandj.symm.trans errandk
  rfl

/-- What a registration that waits would make of its token was not given before, if the tokens are
distinct. -/
theorem Served.fresh (served : Served placed d) (distinct : (tokens placed).Nodup) {k call : Nat}
    {name token key tableAlias : String}
    (waits : d.errands[k]? = some (.registering call name token))
    (gave : Gave placed d key tableAlias) : d.tables.aliasOf token ≠ tableAlias := by
  obtain ⟨j, v, other, token', orderj, errandj, -, rfl⟩ := gave
  obtain ⟨w, orderk, -⟩ := served.pending k call name token waits
  intro same
  rw [← Tables.aliasOf_inj.mp same] at orderj
  cases order_unique distinct orderj orderk
  cases errandj.symm.trans waits

/-- **Where the aliases and the answers come from** stays true as a session goes on. -/
theorem Served.step (served : Served placed d) (h : LocationCalls.Reachable uri d.calls) {m : Move}
    (one : d.step uri m = some e) : Served (placed ++ orders [m]) e := by
  have taken := Step.of_step one
  obtain ⟨later, history⟩ := history_of_step one
  constructor
  · rw [taken.length_errands, served.length_eq, List.length_append]
  · intro k call name token at_
    rcases taken.pending_cases at_ with old | ⟨w, rfl, rfl, asked⟩
    · obtain ⟨w, order, asked⟩ := served.pending k call name token old
      refine ⟨w, getElem?_append_of_some order _, ?_⟩
      rw [history]
      exact List.mem_append_left later asked
    · rw [served.length_eq]
      exact ⟨w, List.getElem?_concat_length, asked⟩
  · intro k name tableAlias at_
    rw [history]
    rcases taken.granted_cases at_ with old | ⟨call, token, path, answered, errand, stage, -⟩
    · obtain ⟨w, token, order, made⟩ := served.made k name tableAlias old
      exact ⟨w, token, getElem?_append_of_some order _, pathIn_of_step one w ▸ made.append later⟩
    · obtain ⟨w, order, asked⟩ := served.pending k call name token errand
      have made := h.made_of_ensured asked stage
      exact ⟨w, token, getElem?_append_of_some order _, pathIn_of_step one w ▸ made.append later⟩
  · intro key tableAlias known
    rcases taken.tables_cases with same | ⟨k, call, name, token, errand, returned, new⟩
    · exact (served.giver key tableAlias (same ▸ known)).kept taken
    · rw [new, Tables.find?_register] at known
      split at known
      · rename_i here
        cases was : d.tables.resolve? name with
        | some found =>
          rw [Tables.register_of_known was] at known
          exact (served.giver key tableAlias (here ▸ was.trans known)).kept taken
        | none =>
          -- This registration is the one that gives the alias.
          obtain ⟨w, order, -⟩ := served.pending k call name token errand
          have mine := Option.some.inj known
          rw [mine] at returned
          refine ⟨k, w, name, token, getElem?_append_of_some order _, returned, here, ?_⟩
          rw [taken.aliasOf_eq, ← mine, Tables.register_of_unknown was]
      · exact (served.giver key tableAlias known).kept taken

/-- A session begins without tables and without calls. -/
theorem served_ofSession (r : SessionRequest) (id : String) (credentials : Credentials) :
    Served [] (ofSession (Session.ofRequest r id credentials)) where
  length_eq := rfl
  pending := fun k call name token at_ => by simp [ofSession] at at_
  made := fun k name tableAlias at_ => by simp [ofSession] at at_
  giver := fun key tableAlias known => nomatch known

theorem Reached.served (h : Reached uri moves d) : Served (orders moves) d := by
  refine h.induction (motive := fun moves d => Served (orders moves) d) served_ofSession ?_
  intro moves m d e reached one served
  rw [orders_append]
  exact served.step reached.reachable.calls one

/-- **What was answered stays true**, as long as nothing is removed: a name for which an alias was
returned has that alias. -/
theorem Reached.resolves (h : Reached uri moves d) : ∀ (k : Nat) (name tableAlias : String),
    d.errands[k]? = some (.registered name (.ok tableAlias)) →
      d.tables.resolve? name = some tableAlias := by
  refine h.induction (motive := fun _ d => ∀ (k : Nat) (name tableAlias : String),
    d.errands[k]? = some (.registered name (.ok tableAlias)) →
      d.tables.resolve? name = some tableAlias) ?_ ?_
  · intro r id credentials k name tableAlias at_
    simp [ofSession] at at_
  · intro moves m d e _ one resolves k name tableAlias at_
    have taken := Step.of_step one
    rcases taken.granted_cases at_ with old | ⟨call, token, path, answered, -, -, mine, new⟩
    · have known := resolves k name tableAlias old
      rcases taken.tables_cases with same | ⟨j, call, other, token, -, -, new⟩
      · rw [same, known]
      · rw [new, Tables.resolve?_register]
        split
        · rename_i same
          rw [Tables.register_of_known ((Tables.resolve?_congr same).trans known)]
        · exact known
    · rw [← new, Tables.resolve?_register, if_pos rfl, mine]

/-! ## The promise -/

/-- The name of a registration that returned an alias. -/
def granted? : Errand → Option String
  | .registered name (.ok _) => some name
  | _ => none

/-- The names for which a registration returned an alias. -/
def grantedNames (d : Registrations) : List String := d.errands.filterMap granted?

theorem mem_grantedNames_iff {name : String} : name ∈ d.grantedNames ↔
    ∃ (k : Nat) (tableAlias : String),
      d.errands[k]? = some (.registered name (.ok tableAlias)) := by
  unfold grantedNames
  rw [List.mem_filterMap]
  constructor
  · rintro ⟨errand, mem, shape⟩
    obtain ⟨k, at_⟩ := List.mem_iff_getElem?.mp mem
    unfold granted? at shape
    split at shape
    · rename_i tableAlias
      cases shape
      exact ⟨k, tableAlias, at_⟩
    · cases shape
  · rintro ⟨k, tableAlias, at_⟩
    exact ⟨_, List.mem_of_getElem? at_, rfl⟩

/-- What overlapping registrations can rely on, in a state `d` to which the schedule `moves`
leads. -/
structure Agreed (uri : String → String) (moves : List Move) (d : Registrations) : Prop where
  /-- Registrations that returned an alias returned the same one if and only if their names have the
  same lower-casing. -/
  same_iff : ∀ (j k : Nat) (name other a b : String),
    d.errands[j]? = some (.registered name (.ok a)) →
      d.errands[k]? = some (.registered other (.ok b)) →
        (a = b ↔ Text.lowerCase name = Text.lowerCase other)
  /-- A registration that returned an alias is the call of a schedule for some workspace, and an
  attempt to make the location of this workspace and this session has succeeded. -/
  made : ∀ (k : Nat) (name tableAlias : String),
    d.errands[k]? = some (.registered name (.ok tableAlias)) →
      ∃ w token, (orders moves)[k]? = some (.register w name token) ∧
        LocationCalls.Made (d.calls.pathIn w) d.calls.history
  /-- A step with which a registration returns an error leaves the tables as they are. -/
  error_adds_nothing : ∀ (m : Move) (e : Registrations) (k : Nat) (name : String) (err : Error),
    d.step uri m = some e → e.errands[k]? = some (.registered name (.error err)) →
      d.errands[k]? ≠ some (.registered name (.error err)) → e.tables = d.tables
  /-- There are as many tables as there are lower-cased names for which an alias was returned. -/
  counted : d.tables.size = (d.grantedNames.map Text.lowerCase).dedup.length
  /-- A name for which an alias was returned has that alias. -/
  resolves : ∀ (k : Nat) (name tableAlias : String),
    d.errands[k]? = some (.registered name (.ok tableAlias)) →
      d.tables.resolve? name = some tableAlias

/-- The names that have an alias are those for which one was returned. -/
theorem Reached.known_iff (h : Reached uri moves d) (key : String) :
    (d.tables.aliases.find? key).isSome ↔ key ∈ d.grantedNames.map Text.lowerCase := by
  rw [Option.isSome_iff_exists, List.mem_map]
  constructor
  · rintro ⟨tableAlias, known⟩
    obtain ⟨k, w, name, token, -, errand, lower, -⟩ := h.served.giver key tableAlias known
    exact ⟨name, mem_grantedNames_iff.mpr ⟨k, tableAlias, errand⟩, lower⟩
  · rintro ⟨name, mem, rfl⟩
    obtain ⟨k, tableAlias, errand⟩ := mem_grantedNames_iff.mp mem
    exact ⟨tableAlias, h.resolves k name tableAlias errand⟩

/-- A step with which a registration returns an error leaves the tables as they are. -/
theorem Step.tables_eq_of_error {m : Move} (taken : Step uri d m e) {k : Nat} {name : String}
    {err : Error} (now : e.errands[k]? = some (.registered name (.error err)))
    (new : d.errands[k]? ≠ some (.registered name (.error err))) : e.tables = d.tables := by
  cases taken with
  | registered errand stage =>
    -- The only errand this step touches has an alias.
    rw [getElem?_settle errand] at now
    split at now
    · cases now
    · exact absurd now new
  | _ => rfl

/-- **Overlapping registrations agree.**  In every schedule of any number of registrations and
ends of a session without removals, with any answers of the storages, the promise is kept at every
moment, if the tokens of the calls are distinct. -/
theorem Reached.agreed (h : Reached uri moves d) (distinct : (tokens moves).Nodup) :
    Agreed uri moves d where
  same_iff := by
    intro j k name other a b left right
    have knowna := h.resolves j name a left
    have knownb := h.resolves k other b right
    constructor
    · rintro rfl
      have gavea := h.served.giver _ a knowna
      exact gavea.key_unique (tokens_orders moves ▸ distinct) (h.served.giver _ a knownb)
    · intro same
      rw [Tables.resolve?_congr same, knownb] at knowna
      exact (Option.some.inj knowna).symm
  made := h.served.made
  error_adds_nothing := fun m e k name err one now new =>
    (Step.of_step one).tables_eq_of_error now new
  counted := Tables.size_eq_length_dedup h.known_iff
  resolves := h.resolves

/-- Three registrations overlap, two of them of one name; the storage fails the first attempt, so
that one of them returns an error; and the session is closed. -/
def raced : List Move :=
  [.register LocationCalls.scratch "Q" "a", .register LocationCalls.scratch "T" "b",
    .register LocationCalls.scratch "t" "c",
    .locations (.proceed 0), .locations (.proceed 1), .locations (.proceed 2),
    .locations (.proceed 0), .locations (.proceed 1), .locations (.proceed 2),
    .locations (.proceed 0), .locations (.create 0 (.error .unreadable)), .locations (.proceed 0),
    .enlist 0,
    .locations (.proceed 2), .locations (.create 2 (.ok ())), .locations (.proceed 2),
    .locations (.probe 2 (.ok true)), .locations (.proceed 2),
    .locations (.proceed 1), .locations (.proceed 1),
    .enlist 2, .close, .enlist 1,
    .locations (.proceed 3), .locations (.send 3 0), .locations (.delete 3 0 (.ok true)),
    .locations (.proceed 3), .report 3]

/-- The two that are left agree on the token of the one that came first. -/
theorem agreed_raced : ∃ d, fresh.run id raced = some d ∧ (tokens raced).Nodup ∧
    Agreed id raced d ∧ d.errands[1]? = some (.registered "T" (.ok "s/c")) ∧
      d.errands[2]? = some (.registered "t" (.ok "s/c")) ∧ d.tables.size = 1 := by
  have distinct : (tokens raced).Nodup := by decide
  exact ⟨_, rfl, distinct, Reached.agreed (.of_trial rfl) distinct, rfl, rfl, rfl⟩

end QuerySession.Registrations
