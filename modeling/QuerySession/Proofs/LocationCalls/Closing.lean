import QuerySession.Proofs.LocationCalls.Progress
import QuerySession.Proofs.LocationCalls.Story

/-!
# The end of the locations

A `cleanup` waits until it has the locations for itself.  `Reachable.closing` says what this moment
divides: whatever was being made before it is finished, and nothing is made after it.  A call that
was not inside by then is refused without having touched a storage or the locations, however long
ago it was made.

The moment is an event of the history, and so the statement is about what comes before and after it;
any `cleanup` will do, since a second one finds what the first one left.

* `Story.answered` — who has no share waits for no storage
* `Step.not_enters` — nobody comes in after the end
* `Story.unadmitted` — who never came in did nothing
* `Reachable.closing` — the theorem
-/

namespace QuerySession.LocationCalls

variable {uri : String → String} {t u v : LocationCalls}

/-! ## Before the moment -/

/-- Whether something happens only to calls that found the locations open. -/
def Happening.enters : Happening → Bool
  | admitted .. | named .. | found .. | createSent .. | createAnswered .. | probeSent ..
  | probeAnswered .. => true
  | _ => false

/-- A call that asked for a folder and has no share any more got an answer. -/
theorem Story.answered {sessionId : String} {i : Nat} {h : List Happening} {stage : Stage}
    (story : Story uri sessionId i h stage) (outside : stage.shares = false) {storage : String}
    {path : StoragePath} :
    (.createSent i storage path ∈ h → ∃ answer, .createAnswered i storage path answer ∈ h) ∧
      (.probeSent i storage path ∈ h → ∃ answer, .probeAnswered i storage path answer ∈ h) := by
  cases stage with
  | asking w =>
    cases story
    simp
  | ensured p r =>
    obtain ⟨w, done, -, ending, rfl⟩ := story
    cases ending <;> simp [begun, tried]
  | closing | deleting left underway count | cleaned count =>
    constructor <;> intro mem <;> cases story.ends rfl mem
  | _ => cases outside

/-- A call that came in and has no share any more has returned. -/
theorem Story.returned_of_admitted {sessionId : String} {i : Nat} {h : List Happening}
    {stage : Stage} (story : Story uri sessionId i h stage) (outside : stage.shares = false)
    {path : StoragePath} (mem : .admitted i path ∈ h) :
    ∃ result, .returned i path result ∈ h := by
  cases stage with
  | asking w =>
    cases story
    simp at mem
  | ensured p r =>
    obtain ⟨w, done, -, ending, rfl⟩ := story
    have here : path = p := by
      cases ending with
      | refused => simp at mem
      | _ => simpa [begun, tried] using mem
    subst here
    exact ⟨r, List.mem_append_right _ (List.mem_singleton_self _)⟩
  | closing | deleting left underway count | cleaned count => cases story.ends rfl mem
  | _ => cases outside

/-! ## After the moment -/

/-- **Nobody comes in after the end**, and nothing is asked of a storage but to delete. -/
theorem Step.not_enters {happening : Happening} (taken : Step uri t happening u) (gate : Gate t)
    (closed : t.locations.closed = true) : happening.enters = false := by
  cases taken with
  | called request => rfl
  | @moved i old new _ l at_ shift =>
    have outside : old.inside = false := not_of_countP_eq_zero (gate.nobody_inside closed) at_
    cases shift with
    | admitted _ open_ => exact absurd (open_.symm.trans closed) Bool.false_ne_true
    | named | found _ | createSent _ _ | createFailed _ | created | probeSent | probeFailed _
    | nothing | settled => cases outside
    | _ => rfl

/-- The error of a closed door names the location. -/
theorem closedError_names (path : StoragePath) :
    (Locations.closedError path).reason? = some (.locationMissing path.path) := rfl

/-- What a call that never came in can have done, and where it can stand. -/
structure Refused (sessionId : String) (i : Nat) (w : Workspace) (h : List Happening)
    (stage : Stage) : Prop where
  /-- It waits, or it has the error of a closed door. -/
  stands : stage = .asking w ∨
    stage = .leaving (w.locationOf sessionId)
      (.error (Locations.closedError (w.locationOf sessionId))) ∨
    stage = .ensured (w.locationOf sessionId)
      (.error (Locations.closedError (w.locationOf sessionId)))
  /-- It asked nothing of a storage, and did not look its location up. -/
  did : ∀ e ∈ h, e = .called i (.ensure w) ∨ e = .refused i (w.locationOf sessionId) ∨
    e = .returned i (w.locationOf sessionId)
      (.error (Locations.closedError (w.locationOf sessionId)))
  /-- The error names the location. -/
  names : (Locations.closedError (w.locationOf sessionId)).reason? =
    some (.locationMissing (w.locationOf sessionId).path)

/-- **Who never came in did nothing.** -/
theorem Story.unadmitted {sessionId : String} {i : Nat} {h : List Happening} {stage : Stage}
    (story : Story uri sessionId i h stage) {w : Workspace}
    (called : .called i (.ensure w) ∈ h)
    (unadmitted : .admitted i (w.locationOf sessionId) ∉ h) : Refused sessionId i w h stage := by
  cases stage with
  | asking w' =>
    cases story
    cases List.mem_singleton.mp called
    exact ⟨.inl rfl, fun e mem => .inl (List.mem_singleton.mp mem), closedError_names _⟩
  | admitted w' =>
    cases story
    simp only [List.mem_cons, List.not_mem_nil, or_false, reduceCtorEq] at called
    cases called
    simp at unadmitted
  | waiting p s | creating p s | created p s | probing p s =>
    obtain ⟨w', rfl, rfl⟩ := story
    have same : w = w' := by simpa [begun, tried] using called
    subst same
    simp [begun] at unadmitted
  | leaving p r =>
    obtain ⟨w', rfl, ending⟩ := story
    cases ending with
    | refused =>
      have same : w = w' := by simpa using called
      subst same
      refine ⟨.inr (.inl rfl), fun e mem => ?_, closedError_names _⟩
      simp only [List.mem_cons, List.not_mem_nil, or_false] at mem
      exact mem.imp_right .inl
    | _ =>
      have same : w = w' := by simpa [begun, tried] using called
      subst same
      simp [begun] at unadmitted
  | ensured p r =>
    obtain ⟨w', done, rfl, ending, rfl⟩ := story
    cases ending with
    | refused =>
      have same : w = w' := by simpa using called
      subst same
      refine ⟨.inr (.inr rfl), fun e mem => ?_, closedError_names _⟩
      simp only [List.mem_append, List.mem_cons, List.not_mem_nil, or_false] at mem
      exact or_assoc.mp mem
    | _ =>
      have same : w = w' := by simpa [begun, tried] using called
      subst same
      simp [begun] at unadmitted
  | closing | deleting left underway count | cleaned count => cases story.ends rfl called

/-! ## The moment -/

/-- What a `cleanup` divides that has the locations for itself. -/
structure Closing (uri : String → String) (t : LocationCalls) (before after : List Happening) :
    Prop where
  /-- Every storage that was asked to make a folder had answered. -/
  created : ∀ j storage path, .createSent j storage path ∈ before →
    ∃ answer, .createAnswered j storage path answer ∈ before
  /-- Every storage that was asked to look for one had answered. -/
  looked : ∀ j storage path, .probeSent j storage path ∈ before →
    ∃ answer, .probeAnswered j storage path answer ∈ before
  /-- No storage was asked since, and none is at it. -/
  nothing_more : (∀ e ∈ after, e.enters = false) ∧ ∀ path, t.attemptsAt path = 0
  /-- Every call that had seen the locations open had returned. -/
  finished : ∀ j path, .admitted j path ∈ before → ∃ result, .returned j path result ∈ before
  /-- Every other `ensure`, whenever it was called, is refused, and does nothing else. -/
  refused : ∀ j w, .called j (.ensure w) ∈ t.history →
    .admitted j (w.locationOf t.locations.sessionId) ∉ before →
      ∃ stage, t.stages[j]? = some stage ∧
        Refused t.locations.sessionId j w (own j t.history) stage
  /-- No location is known any more. -/
  empty : t.locations.paths = [] ∧ t.locations.size = 0 ∧
    ∀ path, t.locations.contains path = false
  /-- It stays like that. -/
  for_good : ∀ moves u, t.run uri moves = some u → u.locations = t.locations
  /-- The calls that have not returned will: without new calls the steps are bounded, and come to
  their end only when all calls have returned. -/
  returns : ∀ moves u, t.run uri moves = some u → (∀ m ∈ moves, m.isCall = false) →
    moves.length ≤ t.work ∧ (¬ CanGoOn uri u → ∀ stage ∈ u.stages, stage.over = true)

/-- **The end of the locations.**  From the moment on at which some `cleanup` has the locations for
itself, nothing is made any more; what was begun before is finished, and all other calls are
refused. -/
theorem Reachable.closing (h : Reachable uri t) {before after : List Happening} {i : Nat}
    (split : t.history = before ++ .locked i :: after) : Closing uri t before after := by
  have closed : t.locations.closed = true := by
    refine h.closed_iff.mpr ⟨i, ?_⟩
    rw [split]
    simp
  obtain ⟨u, v, moves, reached, past, taken, -, later⟩ := h.moment split
  -- At the moment itself, nobody has a share.
  have unshared : u.readers = 0 := by
    cases taken with
    | moved at_ shift =>
      cases shift with
      | locked unshared _ => exact unshared
  have outside {e : Happening} (mem : e ∈ before) : ∃ stage, stage.shares = false ∧
      Story uri u.locations.sessionId e.caller (own e.caller u.history) stage ∧
        e ∈ own e.caller u.history := by
    obtain ⟨stage, at_, story, mine⟩ := reached.story_of_mem (past ▸ mem)
    exact ⟨stage, not_of_countP_eq_zero unshared at_, story, mine⟩
  have of_own {j : Nat} {e : Happening} (mine : e ∈ own j u.history) : e ∈ before :=
    past ▸ (mem_own_iff.mp mine).1
  have after_not_enters : ∀ e ∈ after, e.enters = false := by
    intro e mem
    obtain ⟨u', v', reached', seen, taken'⟩ := h.moment_since split mem
    exact taken'.not_enters reached'.gate (reached'.closed_iff.mpr ⟨i, seen⟩)
  have drained := h.gate.emptied closed
  have nobody := h.gate.nobody_inside closed
  refine ⟨?_, ?_, ⟨after_not_enters, ?_⟩, ?_, ?_, ?_, ?_, ?_⟩
  · intro j storage path mem
    obtain ⟨stage, away, story, mine⟩ := outside mem
    obtain ⟨answer, answered⟩ := (story.answered away).1 mine
    exact ⟨answer, of_own answered⟩
  · intro j storage path mem
    obtain ⟨stage, away, story, mine⟩ := outside mem
    obtain ⟨answer, answered⟩ := (story.answered away).2 mine
    exact ⟨answer, of_own answered⟩
  · intro path
    apply List.countP_eq_zero.mpr
    intro stage mem attempts
    obtain ⟨storage, knows⟩ := Stage.knows_of_attempts attempts
    exact List.countP_eq_zero.mp nobody stage mem (Stage.inside_of_knows knows)
  · intro j path mem
    obtain ⟨stage, away, story, mine⟩ := outside mem
    obtain ⟨result, returned⟩ := story.returned_of_admitted away mine
    exact ⟨result, of_own returned⟩
  · intro j w called unadmitted
    obtain ⟨stage, at_, story, mine⟩ := h.story_of_mem called
    refine ⟨stage, at_, story.unadmitted mine fun admitted => ?_⟩
    -- It was not admitted before the moment, and nobody is afterwards.
    have mem := (mem_own_iff.mp admitted).1
    rw [split] at mem
    rcases List.mem_append.mp mem with early | late
    · exact unadmitted early
    · rcases List.mem_cons.mp late with here | late
      · cases here
      · cases after_not_enters _ late
  · refine ⟨Locations.paths_of_empty drained, ?_, Locations.contains_of_empty drained⟩
    rw [Locations.size, Locations.paths_of_empty drained]
    rfl
  · intro moves' w run
    exact h.locations_run closed run
  · intro moves' w run going_on
    exact returns_of_run run going_on

/-- A call that is making its location while another one ends the locations, and a third one that
comes too late. -/
def overtaken : List Move :=
  [.call (.ensure scratch), .proceed 0, .proceed 0, .proceed 0, .call .cleanup,
    .call (.ensure scratch), .create 0 (.ok ()), .proceed 0, .probe 0 (.ok true), .proceed 0,
    .proceed 1, .send 1 0, .delete 1 0 (.ok true), .proceed 1, .proceed 2, .proceed 2]

/-- The first call gets the path, and the last one an error. -/
theorem closing_overtaken : ∃ t, fresh.run id overtaken = some t ∧
    t.history = t.history.take 10 ++ .locked 1 :: t.history.drop 11 ∧
      Closing id t (t.history.take 10) (t.history.drop 11) ∧
        .returned 0 (t.pathIn scratch) (.ok (t.pathIn scratch)) ∈ t.history.take 10 ∧
          .returned 2 (t.pathIn scratch)
            (.error (Locations.closedError (t.pathIn scratch))) ∈ t.history.drop 11 := by
  refine ⟨_, rfl, rfl, Reachable.closing (.of_trial overtaken rfl) rfl, ?_, ?_⟩
  · exact List.mem_of_getElem? (i := 9) rfl
  · exact List.mem_of_getElem? (i := 4) rfl

end QuerySession.LocationCalls
