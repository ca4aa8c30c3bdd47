import QuerySession.Proofs.Session
import QuerySession.Proofs.LocationCalls.Alone
import QuerySession.Proofs.LocationCalls.Story
import QuerySession.Session.Registrations

/-!
# The calls on the locations of a session

Whatever is called on a session, what happens to its locations is a run of calls on them
(`Registrations.Reachable.calls`).  What holds of those runs therefore holds of sessions.

A registration and a `close` that nobody disturbs are `Session.registerTable` and `Session.close`
(`run_registerAlone`, `run_closeAlone`).
-/

namespace QuerySession.Registrations

variable {uri : String → String} {d e : Registrations}

/-- The states of some session, from its making on. -/
def Reachable (uri : String → String) (d : Registrations) : Prop :=
  ∃ r id credentials moves, (ofSession (Session.ofRequest r id credentials)).run uri moves = some d

/-- What a step of a session can do. -/
inductive Step (uri : String → String) (d : Registrations) : Move → Registrations → Prop
  /-- A call on the locations goes on. -/
  | locations {m : LocationCalls.Move} {calls : LocationCalls}
      (one : d.calls.step uri m = some calls) :
      Step uri d (.locations m) { d with calls }
  | registering (w : Workspace) (name token : String) :
      Step uri d (.register w name token)
        (d.hand (.ensure w) (.registering d.calls.stages.length name token))
  /-- The location is there, and the table has an alias. -/
  | registered {k call : Nat} {name token : String} {path answered : StoragePath}
      (errand : d.errands[k]? = some (.registering call name token))
      (stage : d.calls.stages[call]? = some (.ensured path (.ok answered))) :
      Step uri d (.enlist k)
        (d.settle k (.registered name (.ok (d.tables.register name token).1))
          (d.tables.register name token).2)
  /-- The location cannot be had. -/
  | refused {k call : Nat} {name token : String} {path : StoragePath} {e : Error}
      (errand : d.errands[k]? = some (.registering call name token))
      (stage : d.calls.stages[call]? = some (.ensured path (.error e))) :
      Step uri d (.enlist k) (d.settle k (.registered name (.error e)) d.tables)
  | closing : Step uri d .close (d.hand .cleanup (.closing d.calls.stages.length))
  | closed {k call count : Nat} (errand : d.errands[k]? = some (.closing call))
      (stage : d.calls.stages[call]? = some (.cleaned count)) :
      Step uri d (.report k) (d.settle k (.closed count) d.tables)

/-- **What can come out of a step.** -/
theorem Step.of_step {m : Move} (h : d.step uri m = some e) : Step uri d m e := by
  cases m with
  | locations m =>
    obtain ⟨calls, one, rfl⟩ := Option.map_eq_some_iff.mp h
    exact .locations one
  | register w name token =>
    cases h
    exact .registering w name token
  | close =>
    cases h
    exact .closing
  | enlist k =>
    simp only [step] at h
    split at h
    · rename_i errand
      split at h
      · rename_i stage
        cases h
        exact .registered errand stage
      · rename_i stage
        cases h
        exact .refused errand stage
      · cases h
    · cases h
  | report k =>
    simp only [step] at h
    split at h
    · rename_i errand
      split at h
      · rename_i stage
        cases h
        exact .closed errand stage
      · cases h
    · cases h

/-- What a step of a session does to its locations: nothing, or a step of the calls on them. -/
theorem calls_of_step {m : Move} (h : d.step uri m = some e) :
    e.calls = d.calls ∨ ∃ m', d.calls.step uri m' = some e.calls := by
  cases Step.of_step h with
  | locations one => exact .inr ⟨_, one⟩
  | registering w name token => exact .inr ⟨.call (.ensure w), rfl⟩
  | closing => exact .inr ⟨.call .cleanup, rfl⟩
  | registered errand stage => exact .inl rfl
  | refused errand stage => exact .inl rfl
  | closed errand stage => exact .inl rfl

/-- **Invariants of a session.**  What holds at the start and survives every step that can be taken
from a reachable state holds in every reachable state. -/
theorem Reachable.induction {motive : Registrations → Prop}
    (start : ∀ r id credentials, motive (ofSession (Session.ofRequest r id credentials)))
    (step : ∀ {m : Move} {d e : Registrations}, Reachable uri d → d.step uri m = some e →
      motive d → motive e)
    (h : Reachable uri d) : motive d := by
  obtain ⟨r, id, credentials, moves, reached⟩ := h
  exact Schedule.induction (motive := fun _ d => motive d) (start r id credentials)
    (fun earlier one before => step ⟨r, id, credentials, _, earlier⟩ one before) reached

/-- **The locations of a session** see a run of calls on them. -/
theorem Reachable.calls (h : Reachable uri d) : LocationCalls.Reachable uri d.calls := by
  refine h.induction (motive := fun d => LocationCalls.Reachable uri d.calls) ?_ ?_
  · intro r id credentials
    exact ⟨id, _, [], rfl⟩
  · intro m d e _ one reachable
    rcases calls_of_step one with same | ⟨m', go⟩
    · exact same ▸ reachable
    · exact reachable.next go

/-- A step of a session only adds to the history of its locations. -/
theorem history_of_step {m : Move} (h : d.step uri m = some e) :
    ∃ later, e.calls.history = d.calls.history ++ later := by
  rcases calls_of_step h with same | ⟨m', one⟩
  · exact ⟨[], by rw [same, List.append_nil]⟩
  · obtain ⟨happening, taken⟩ := LocationCalls.Step.of_step one
    exact ⟨[happening], taken.history_eq⟩

/-- **A `close` that returned** has had the locations ended, and answers with their count. -/
theorem Reachable.cleaned_of_closed (h : Reachable uri d) {count : Nat}
    (mem : .closed count ∈ d.errands) : ∃ i, .cleaned i count ∈ d.calls.history := by
  revert mem
  refine h.induction
    (motive := fun d => .closed count ∈ d.errands → ∃ i, .cleaned i count ∈ d.calls.history) ?_ ?_
  · intro r id credentials mem
    cases mem
  · intro m before d was one ih mem
    obtain ⟨later, history⟩ := history_of_step one
    have kept (old : .closed count ∈ before.errands) :
        ∃ i, .cleaned i count ∈ d.calls.history := by
      obtain ⟨i, returned⟩ := ih old
      exact ⟨i, history ▸ List.mem_append_left later returned⟩
    cases Step.of_step one with
    | locations one => exact kept mem
    | registering w name token =>
      rcases List.mem_append.mp mem with old | new
      · exact kept old
      · cases List.mem_singleton.mp new
    | closing =>
      rcases List.mem_append.mp mem with old | new
      · exact kept old
      · cases List.mem_singleton.mp new
    | registered errand stage =>
      rcases List.mem_or_eq_of_mem_set mem with old | new
      · exact kept old
      · cases new
    | refused errand stage =>
      rcases List.mem_or_eq_of_mem_set mem with old | new
      · exact kept old
      · cases new
    | @closed k call n errand stage =>
      rcases List.mem_or_eq_of_mem_set mem with old | new
      · exact kept old
      · cases new
        obtain ⟨sent, eq, -⟩ := was.calls.story stage
        have mine : .cleaned call count ∈ LocationCalls.own call before.calls.history := by
          rw [eq]
          exact List.mem_append_right _ (List.mem_singleton_self _)
        exact ⟨call, (LocationCalls.mem_own_iff.mp mine).1⟩

/-! ## Calls that nobody disturbs -/

section Alone

variable {σ : Type} (storages : Storages σ) (s : Session)

/-- Steps of the calls on the locations. -/
theorem run_locations {calls : LocationCalls} {steps : List LocationCalls.Move}
    (h : d.calls.run uri steps = some calls) :
    d.run uri (steps.map .locations) = some { d with calls } := by
  induction steps generalizing d with
  | nil =>
    cases h
    rfl
  | cons m steps ih =>
    obtain ⟨next, one, rest⟩ := Option.bind_eq_some_iff.mp h
    have first : d.step uri (.locations m) = some { d with calls := next } := by
      rw [step, one]
      rfl
    exact Schedule.cons first (ih rest)

/-- The session `s`, with the locations and the tables that the calls leave. -/
def onto (d : Registrations) (s : Session) : Session :=
  { s with locations := d.calls.locations, tables := d.tables }

/-- The calls after a registration whose location was asked for. -/
def enlisted (d : Registrations) (calls : LocationCalls) (name token : String) :
    Except Error StoragePath → Registrations
  | .ok _ => ⟨calls, (d.tables.register name token).2,
      d.errands ++ [.registered name (.ok (d.tables.register name token).1)]⟩
  | .error e => ⟨calls, d.tables, d.errands ++ [.registered name (.error e)]⟩

/-- A registration whose location was asked for goes on. -/
theorem run_registered {w : Workspace} {steps : List LocationCalls.Move} {l : Locations}
    {path : StoragePath} {result : Except Error StoragePath}
    {history : List LocationCalls.Happening}
    (asked : d.calls.run uri (.call (.ensure w) :: steps) =
      some (d.calls.beside l (.ensured path result) history)) (name token : String) :
    d.run uri (.register w name token :: (steps.map .locations ++ [.enlist d.errands.length])) =
      some (d.enlisted (d.calls.beside l (.ensured path result) history) name token result) := by
  have handed : (d.hand (.ensure w)
      (.registering d.calls.stages.length name token)).calls.run uri steps =
        some (d.calls.beside l (.ensured path result) history) := asked
  refine Schedule.cons rfl (Schedule.append (run_locations handed)
    (Schedule.cons ?_ List.foldlM_nil))
  cases result <;> simp [step, hand, LocationCalls.stage_beside, settle, enlisted]

/-- A `close` whose locations were ended goes on. -/
theorem run_closed {steps : List LocationCalls.Move} {l : Locations} {count : Nat}
    {history : List LocationCalls.Happening}
    (ended : d.calls.run uri (.call .cleanup :: steps) =
      some (d.calls.beside l (.cleaned count) history)) :
    d.run uri (.close :: (steps.map .locations ++ [.report d.errands.length])) =
      some ⟨d.calls.beside l (.cleaned count) history, d.tables,
        d.errands ++ [.closed count]⟩ := by
  have handed : (d.hand .cleanup (.closing d.calls.stages.length)).calls.run uri steps =
      some (d.calls.beside l (.cleaned count) history) := ended
  refine Schedule.cons rfl (Schedule.append (run_locations handed)
    (Schedule.cons ?_ List.foldlM_nil))
  simp [step, hand, LocationCalls.stage_beside, settle]

/-- **A registration that nobody disturbs** ends with the session and the result of
`Session.registerTable`, on the same storages. -/
theorem run_registerAlone (w : Workspace) (name token : String) (spans : List String)
    (scene : Scene σ) (free : d.calls.writers = 0)
    (turn : d.calls.attemptsAt (d.calls.pathIn w) = 0) :
    let done := (((d.onto s).registerTable storages w name token) spans scene).1
    ∃ moves e, d.run storages.uri (.register w name token :: moves) = some e ∧
      e.onto s = done.2 ∧ e.errands = d.errands ++ [.registered name done.1] := by
  intro done
  have result : done = _ :=
    Session.registerTable_eq storages (d.onto s) w name token spans scene
  obtain ⟨history, asked⟩ :=
    LocationCalls.run_ensureAlone storages d.calls w spans scene free turn
  cases ensured : ((d.calls.locations.ensure storages w) spans scene).1 with
  | mk answer l =>
    have seen : (((d.onto s).locations.ensure storages w) spans scene).1 = (answer, l) := ensured
    rw [ensured] at asked
    rw [seen] at result
    refine ⟨_, _, run_registered asked name token, ?_⟩
    rw [result]
    cases answer <;> exact ⟨rfl, rfl⟩

/-- **A `close` that nobody disturbs** ends with the session of `Session.close`, on the same
storages. -/
theorem run_closeAlone (spans : List String) (scene : Scene σ) (unshared : d.calls.readers = 0)
    (free : d.calls.writers = 0) :
    ∃ moves e, d.run storages.uri (.close :: moves) = some e ∧
      e.onto s = (((d.onto s).close storages) spans scene).1 := by
  obtain ⟨history, ended⟩ :=
    LocationCalls.run_cleanupAlone storages d.calls spans scene unshared free
  exact ⟨_, _, run_closed ended, rfl⟩

end Alone

/-! ## Trying things out -/

/-- A session to try things out with. -/
def fresh : Registrations :=
  ofSession (Session.ofRequest ⟨none, [], false, false, none, []⟩ "s" ⟨"u"⟩)

/-- What is reached in a trial is reached. -/
theorem Reachable.of_trial (moves : List Move) (h : fresh.run uri moves = some d) :
    Reachable uri d := ⟨_, _, _, moves, h⟩

end QuerySession.Registrations
