import QuerySession.Proofs.LocationCalls.Cells

/-!
# The story of one call

However the calls overlap, the steps of one call alone read like those of a program: an `ensure`
asks, comes in, looks its location up, and then finds it there or makes one attempt.  `Ending` lists
the six ways in which it can end, with the result of each.  `Reachable.story` says that no schedule
and no answer of a storage makes a call do anything else, so that what a single call does can be
read off six short lists.

* `Reachable.caller_lt` — nothing happens to calls that were not made
* `Reachable.story` — what a call did so far, by the stage it stands in
* `Reachable.ending` — what an `ensure` did that returned
* `Reachable.made_of_ensured` — it answers a path only if the location was made
-/

namespace QuerySession.LocationCalls

variable {uri : String → String} {t u v : LocationCalls}

/-! ## How a call goes -/

/-- What an `ensure` does that finds the locations open, up to its turn. -/
def begun (i : Nat) (w : Workspace) (path : StoragePath) : List Happening :=
  [.called i (.ensure w), .admitted i path, .named i w]

/-- What it does in an attempt whose storage made the folder, up to the look at it. -/
def tried (i : Nat) (storage : String) (path : StoragePath) : List Happening :=
  [.createSent i storage path, .createAnswered i storage path (.ok ()), .probeSent i storage path]

/-- How an `ensure` can go, and with which result. -/
inductive Ending (uri : String → String) (i : Nat) (w : Workspace) (path : StoragePath) :
    List Happening → Except Error StoragePath → Prop
  /-- It found the locations closed. -/
  | refused :
      Ending uri i w path [.called i (.ensure w), .refused i path]
        (.error (Locations.closedError path))
  /-- It found its location ready. -/
  | found : Ending uri i w path (begun i w path ++ [.found i path]) (.ok path)
  /-- The folder could not be made. -/
  | createFailed (storage : String) (e : Error) :
      Ending uri i w path
        (begun i w path ++
          [.createSent i storage path, .createAnswered i storage path (.error e)])
        (.error (Locations.provisionError path (uri storage) (.error e)))
  /-- The storage could not tell whether the folder is there. -/
  | probeFailed (storage : String) (e : Error) :
      Ending uri i w path
        (begun i w path ++ tried i storage path ++ [.probeAnswered i storage path (.error e)])
        (.error (Locations.provisionError path (uri storage) (.error e)))
  /-- The folder is not there. -/
  | nothing (storage : String) :
      Ending uri i w path
        (begun i w path ++ tried i storage path ++ [.probeAnswered i storage path (.ok false)])
        (.error (Locations.provisionError path (uri storage) .unknown))
  /-- The folder is there. -/
  | settled (storage : String) :
      Ending uri i w path
        (begun i w path ++ tried i storage path ++ [.probeAnswered i storage path (.ok true)])
        (.ok path)

/-- Whether something belongs to a deletion. -/
def Happening.clears : Happening → Bool
  | deleteSent .. | deleteAnswered .. => true
  | _ => false

/-- What a call did so far, by the stage it stands in. -/
def Story (uri : String → String) (sessionId : String) (i : Nat) (h : List Happening) :
    Stage → Prop
  | .asking w => h = [.called i (.ensure w)]
  | .admitted w => h = [.called i (.ensure w), .admitted i (w.locationOf sessionId)]
  | .waiting path _ => ∃ w, w.locationOf sessionId = path ∧ h = begun i w path
  | .creating path storage => ∃ w, w.locationOf sessionId = path ∧
      h = begun i w path ++ [.createSent i storage path]
  | .created path storage => ∃ w, w.locationOf sessionId = path ∧
      h = begun i w path ++
        [.createSent i storage path, .createAnswered i storage path (.ok ())]
  | .probing path storage => ∃ w, w.locationOf sessionId = path ∧
      h = begun i w path ++ tried i storage path
  | .leaving path result => ∃ w, w.locationOf sessionId = path ∧ Ending uri i w path h result
  | .ensured path result => ∃ w done, w.locationOf sessionId = path ∧
      Ending uri i w path done result ∧ h = done ++ [.returned i path result]
  | .closing => h = [.called i .cleanup]
  | .deleting .. => ∃ sent, h = [.called i .cleanup, .locked i] ++ sent ∧
      ∀ e ∈ sent, e.clears = true
  | .cleaned count => ∃ sent, h = [.called i .cleanup, .locked i] ++ sent ++ [.cleaned i count] ∧
      ∀ e ∈ sent, e.clears = true

/-! ## Every call goes like that -/

/-- A step makes no call disappear. -/
theorem Step.length_le {happening : Happening} (taken : Step uri t happening u) :
    t.stages.length ≤ u.stages.length := by
  cases taken with
  | called request => simp [join]
  | moved at_ shift => simp [put]

/-- Nothing happens to calls that were not made. -/
theorem Reachable.caller_lt (h : Reachable uri t) {e : Happening} (mem : e ∈ t.history) :
    e.caller < t.stages.length := by
  induction h using Reachable.induction with
  | start sessionId spans _ => cases mem
  | @step t u happening _ _ taken ih =>
    rw [taken.history_eq] at mem
    rcases List.mem_append.mp mem with earlier | last
    · exact Nat.lt_of_lt_of_le (ih earlier) taken.length_le
    · cases List.mem_singleton.mp last
      cases taken with
      | called request => simp [join, Happening.caller]
      | moved at_ shift =>
        rw [shift.caller_eq, put, List.length_set]
        exact (List.getElem?_eq_some_iff.mp at_).1

/-- The own history of a call that goes on grows by what it does. -/
theorem Shift.story {i : Nat} {old new : Stage} {happening : Happening} {l : Locations}
    (shift : Shift uri t i old happening new l) {h : List Happening}
    (story : Story uri t.locations.sessionId i h old) :
    Story uri t.locations.sessionId i (h ++ [happening]) new := by
  cases shift with
  | @refused w _ _ =>
    cases story
    exact ⟨w, rfl, .refused⟩
  | admitted _ _ =>
    cases story
    rfl
  | @named w =>
    cases story
    exact ⟨w, rfl, rfl⟩
  | found _ =>
    obtain ⟨w, here, rfl⟩ := story
    exact ⟨w, here, .found⟩
  | createSent _ _ =>
    obtain ⟨w, here, rfl⟩ := story
    exact ⟨w, here, rfl⟩
  | createFailed e =>
    obtain ⟨w, here, rfl⟩ := story
    exact ⟨w, here, .createFailed _ e⟩
  | created =>
    obtain ⟨w, here, rfl⟩ := story
    exact ⟨w, here, rfl⟩
  | probeSent =>
    obtain ⟨w, here, rfl⟩ := story
    exact ⟨w, here, rfl⟩
  | probeFailed e =>
    obtain ⟨w, here, rfl⟩ := story
    exact ⟨w, here, .probeFailed _ e⟩
  | nothing =>
    obtain ⟨w, here, rfl⟩ := story
    exact ⟨w, here, .nothing _⟩
  | settled =>
    obtain ⟨w, here, rfl⟩ := story
    exact ⟨w, here, .settled _⟩
  | returned =>
    obtain ⟨w, here, ending⟩ := story
    exact ⟨w, h, here, ending, rfl⟩
  | locked _ _ =>
    cases story
    exact ⟨[], rfl, fun _ mem => nomatch mem⟩
  | deleteSent _ | deleteAnswered _ _ =>
    obtain ⟨sent, rfl, clears⟩ := story
    refine ⟨sent ++ [_], List.append_assoc .., fun e mem => ?_⟩
    rcases List.mem_append.mp mem with earlier | last
    · exact clears e earlier
    · cases List.mem_singleton.mp last
      rfl
  | cleaned =>
    obtain ⟨sent, rfl, clears⟩ := story
    exact ⟨sent, rfl, clears⟩

/-- **The story of a call.**  What it did so far is told by the stage it stands in. -/
theorem Reachable.story (h : Reachable uri t) {i : Nat} {stage : Stage}
    (at_ : t.stages[i]? = some stage) :
    Story uri t.locations.sessionId i (own i t.history) stage := by
  induction h using Reachable.induction generalizing i stage with
  | start sessionId spans _ => cases at_
  | @step t u happening before _ taken ih =>
    rw [taken.history_eq, taken.sessionId_eq, own_append]
    cases taken with
    | called request =>
      rcases getElem?_join at_ with earlier | ⟨rfl, rfl⟩
      · -- The new call is another one.
        have bound : i < t.stages.length := (List.getElem?_eq_some_iff.mp earlier).1
        have other : (Happening.called t.stages.length request).caller ≠ i := by
          show t.stages.length ≠ i
          omega
        rw [own_singleton_other other, List.append_nil]
        exact ih earlier
      · have untouched : own t.stages.length t.history = [] := by
          apply List.filter_eq_nil_iff.mpr
          intro e mem mine
          have := before.caller_lt mem
          have := of_decide_eq_true mine
          omega
        have mine : (Happening.called t.stages.length request).caller = t.stages.length := rfl
        rw [untouched, own_singleton_self mine]
        cases request <;> rfl
    | @moved j old new _ l stood shift =>
      rw [getElem?_put stood] at at_
      by_cases same : j = i
      · subst same
        rw [if_pos rfl] at at_
        cases at_
        rw [own_singleton_self shift.caller_eq]
        exact shift.story (ih stood)
      · rw [if_neg same] at at_
        have other : happening.caller ≠ i := fun eq => same (shift.caller_eq.symm.trans eq)
        rw [own_singleton_other other, List.append_nil]
        exact ih at_

/-- Whatever happened belongs to the story of some call. -/
theorem Reachable.story_of_mem (h : Reachable uri t) {e : Happening} (mem : e ∈ t.history) :
    ∃ stage, t.stages[e.caller]? = some stage ∧
      Story uri t.locations.sessionId e.caller (own e.caller t.history) stage ∧
      e ∈ own e.caller t.history := by
  have at_ := List.getElem?_eq_getElem (h.caller_lt mem)
  exact ⟨_, at_, h.story at_, mem_own_iff.mpr ⟨mem, rfl⟩⟩

/-! ## Ends of the locations -/

/-- Whether something happens only to a `cleanup`. -/
def Happening.ends : Happening → Bool
  | called _ .cleanup | locked _ | deleteSent .. | deleteAnswered .. | cleaned .. => true
  | _ => false

/-- Whether a call is a `cleanup`. -/
def Stage.ends : Stage → Bool
  | closing | deleting .. | cleaned _ => true
  | _ => false

/-- A `cleanup` does nothing that an `ensure` does. -/
theorem Story.ends {sessionId : String} {i : Nat} {h : List Happening} {stage : Stage}
    (story : Story uri sessionId i h stage) (ends : stage.ends = true) {e : Happening}
    (mem : e ∈ h) : e.ends = true := by
  have ends_of_clears {e : Happening} (clears : e.clears = true) : e.ends = true := by
    cases e <;> first | rfl | cases clears
  cases stage with
  | closing =>
    cases story
    cases List.mem_singleton.mp mem
    rfl
  | deleting left underway count =>
    obtain ⟨sent, rfl, clears⟩ := story
    simp only [List.mem_append, List.mem_cons, List.not_mem_nil, or_false] at mem
    rcases mem with (rfl | rfl) | rest
    · rfl
    · rfl
    · exact ends_of_clears (clears e rest)
  | cleaned count =>
    obtain ⟨sent, rfl, clears⟩ := story
    simp only [List.mem_append, List.mem_cons, List.not_mem_nil, or_false] at mem
    rcases mem with ((rfl | rfl) | rest) | rfl
    · rfl
    · rfl
    · exact ends_of_clears (clears e rest)
    · rfl
  | _ => cases ends

/-! ## Calls that returned -/

/-- Before it returns, a call has not returned. -/
theorem Ending.not_returned {i : Nat} {w : Workspace} {path : StoragePath}
    {done : List Happening} {result : Except Error StoragePath}
    (ending : Ending uri i w path done result) (j : Nat) (p : StoragePath)
    (r : Except Error StoragePath) : Happening.returned j p r ∉ done := by
  intro mem
  cases ending <;> simp [begun, tried] at mem

/-- A call asks for one workspace. -/
theorem Ending.workspace_eq {i : Nat} {v w : Workspace} {path : StoragePath}
    {done : List Happening} {result : Except Error StoragePath}
    (ending : Ending uri i w path done result) (mem : .called i (.ensure v) ∈ done) : v = w := by
  cases ending <;> simpa [begun, tried] using mem

/-- A call that returned stands at its end, and nowhere else. -/
theorem Story.ensured_of_returned {sessionId : String} {i : Nat} {h : List Happening}
    {stage : Stage} (story : Story uri sessionId i h stage) {path : StoragePath}
    {result : Except Error StoragePath} (mem : Happening.returned i path result ∈ h) :
    stage = .ensured path result := by
  cases stage with
  | asking w | admitted w =>
    cases story
    simp at mem
  | waiting p s | creating p s | created p s | probing p s =>
    obtain ⟨w, -, rfl⟩ := story
    simp [begun, tried] at mem
  | leaving p r =>
    obtain ⟨w, -, ending⟩ := story
    exact absurd mem (ending.not_returned i path result)
  | ensured p r =>
    obtain ⟨w, done, -, ending, rfl⟩ := story
    rcases List.mem_append.mp mem with before | last
    · exact absurd before (ending.not_returned i path result)
    · cases List.mem_singleton.mp last
      rfl
  | closing | deleting left underway count | cleaned count => cases story.ends rfl mem

/-- **What an `ensure` did that returned** is one of six lists, and its result is the one that goes
with the list. -/
theorem Reachable.ending (h : Reachable uri t) {i : Nat} {path : StoragePath}
    {result : Except Error StoragePath} (mem : Happening.returned i path result ∈ t.history) :
    ∃ w done, w.locationOf t.locations.sessionId = path ∧ Ending uri i w path done result ∧
      own i t.history = done ++ [.returned i path result] := by
  obtain ⟨stage, at_, story, mine⟩ := h.story_of_mem mem
  cases story.ensured_of_returned mine
  exact story

/-- A call that came in and is not inside any more has returned. -/
theorem Reachable.returned_of_ensured (h : Reachable uri t) {i : Nat} {path : StoragePath}
    {result : Except Error StoragePath} (at_ : t.stages[i]? = some (.ensured path result)) :
    Happening.returned i path result ∈ t.history := by
  obtain ⟨w, done, -, -, eq⟩ := h.story at_
  have mine : Happening.returned i path result ∈ own i t.history := by
    rw [eq]
    exact List.mem_append_right _ (List.mem_singleton_self _)
  exact (mem_own_iff.mp mine).1

/-! ## A location that is there was made -/

/-- A call that ends an attempt with success has made its location. -/
theorem Made.of_settled {i : Nat} {w : Workspace} {path : StoragePath} {storage : String}
    {h : List Happening}
    (eq : own i h = begun i w path ++ tried i storage path ++
      [.probeAnswered i storage path (.ok true)]) : Made path h := by
  refine ⟨i, storage, List.Sublist.trans ?_ (own_sublist i h)⟩
  rw [eq, List.append_assoc]
  exact List.sublist_append_right (begun i w path) _

/-- What is ready was made, and so was what some call found ready. -/
theorem Reachable.made_of_ready (h : Reachable uri t) :
    (∀ path, t.locations.contains path = true → Made path t.history) ∧
      ∀ i path, Happening.found i path ∈ t.history → Made path t.history := by
  induction h using Reachable.induction with
  | start sessionId spans _ =>
    exact ⟨fun path ready => absurd ready Bool.false_ne_true, fun i path mem => nomatch mem⟩
  | @step t u happening before after taken ih =>
    obtain ⟨ready, found⟩ := ih
    rw [taken.history_eq]
    constructor
    · intro path there
      by_cases was : t.locations.contains path = true
      · exact (ready path was).append _
      · -- The step made it ready.
        cases taken with
        | called request => exact absurd there was
        | @moved i _ _ _ _ at_ shift =>
          cases shift with
          | named =>
            rw [put, Locations.paths_enter] at there
            exact absurd there was
          | @settled settled storage =>
            obtain ⟨r, known⟩ := before.known_of_knows at_ rfl
            rw [put, Locations.contains_settle known] at there
            by_cases same : settled = path
            · subst same
              obtain ⟨w, -, eq⟩ := before.story at_
              have mine : (Happening.probeAnswered i storage settled (.ok true)).caller = i := rfl
              have whole : own i (t.history ++ [.probeAnswered i storage settled (.ok true)]) =
                  begun i w settled ++ tried i storage settled ++
                    [.probeAnswered i storage settled (.ok true)] := by
                rw [own_append, own_singleton_self mine, eq]
              exact Made.of_settled whole
            · rw [if_neg same] at there
              exact absurd there was
          | locked _ _ =>
            exact absurd ((Locations.contains_drain ..).symm.trans there) Bool.false_ne_true
          | _ => exact absurd there was
    · intro i path mem
      rcases List.mem_append.mp mem with earlier | last
      · exact (found i path earlier).append _
      · cases List.mem_singleton.mp last
        cases taken with
        | moved at_ shift =>
          cases shift with
          | found there => exact (ready path there).append _

/-- **A call answers a path only if the location was made.** -/
theorem Reachable.made_of_ok (h : Reachable uri t) {i : Nat} {w : Workspace} {path r : StoragePath}
    {done : List Happening} (ending : Ending uri i w path done (.ok r))
    (eq : own i t.history = done) : r = path ∧ Made path t.history := by
  cases ending with
  | found =>
    refine ⟨rfl, h.made_of_ready.2 i path (own_sublist i t.history |>.subset ?_)⟩
    rw [eq]
    exact List.mem_append_right _ (List.mem_singleton_self _)
  | settled storage => exact ⟨rfl, Made.of_settled eq⟩

/-- **The location of a workspace was made** when a call for it has answered a path. -/
theorem Reachable.made_of_ensured (h : Reachable uri t) {i : Nat} {w : Workspace}
    {path r : StoragePath} (asked : .called i (.ensure w) ∈ t.history)
    (at_ : t.stages[i]? = some (.ensured path (.ok r))) : Made (t.pathIn w) t.history := by
  obtain ⟨v, done, here, ending, eq⟩ := h.story at_
  have mine : .called i (.ensure w) ∈ own i t.history := mem_own_iff.mpr ⟨asked, rfl⟩
  rw [eq] at mine
  obtain rfl : w = v := by
    rcases List.mem_append.mp mine with before | last
    · exact ending.workspace_eq before
    · cases List.mem_singleton.mp last
  -- It was made when the call had its result, which is before it returned.
  obtain ⟨before, after, split⟩ := List.append_of_mem (h.returned_of_ensured at_)
  obtain ⟨u, next, moves, reached, rfl, taken, -, -⟩ := h.moment split
  cases taken with
  | moved stands shift =>
    cases shift with
    | returned =>
      obtain ⟨w', -, earlier⟩ := reached.story stands
      rw [show t.pathIn w = path from here, split]
      exact (reached.made_of_ok earlier rfl).2.append _

end QuerySession.LocationCalls
