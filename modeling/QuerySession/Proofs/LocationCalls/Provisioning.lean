import QuerySession.Proofs.LocationCalls.Ledger

/-!
# Locations are made once

Any number of queries may ask for the same location at the same time, and its storage may fail as
often as it likes.  `Reachable.provisioned` is the promise to all of them: there is one attempt at a
time, a call makes one attempt at most and fails only if its own attempt failed, and after the first
success nothing is asked of the storage any more.

The promise is assembled from the turns (`Cells`), the stories of the single calls (`Story`) and the
books (`Ledger`).  Its last part counts: if a storage fails the first `k` attempts, then of `n` calls
the first `k` to have their turn get an error, and all others the path.

## Main Definitions

* `outcomes`, `FailsFirst` — how the attempts at a location went, and a storage that fails at first
* `Provisioned` — the promise

## Main Results

* `Reachable.not_asks_of_confirmed` — nothing is asked after a success
* `Reachable.provisioned` — the promise is kept
-/

namespace QuerySession.LocationCalls

variable {uri : String → String} {t u v : LocationCalls}

/-! ## How attempts went -/

/-- Whether the attempt at `path` that ended here succeeded. -/
def Happening.verdict (path : StoragePath) : Happening → Option Bool
  | createAnswered _ _ p (.error _) => if p = path then some false else none
  | probeAnswered _ _ p answer => if p = path then some (affirms answer) else none
  | _ => none

/-- How the attempts at `path` went, in order. -/
def outcomes (path : StoragePath) (h : List Happening) : List Bool :=
  h.filterMap (Happening.verdict path)

/-- The first `k` fail, and all later ones succeed. -/
def FailsFirst (k : Nat) (outcomes : List Bool) : Prop :=
  ∀ j (bound : j < outcomes.length), outcomes[j] = decide (k ≤ j)

instance (k : Nat) (outcomes : List Bool) : Decidable (FailsFirst k outcomes) :=
  inferInstanceAs (Decidable (∀ j (bound : j < outcomes.length), outcomes[j] = decide (k ≤ j)))

/-- How many fail when the first `k` do. -/
theorem FailsFirst.failures {k : Nat} {bs : List Bool} (script : FailsFirst k bs) :
    bs.countP (! ·) = min bs.length k := by
  induction bs using List.reverseRecOn with
  | nil => simp
  | append_singleton bs b ih =>
    have earlier : FailsFirst k bs := by
      intro j bound
      have whole := script j (by rw [List.length_append]; omega)
      rwa [List.getElem_append_left bound] at whole
    have last : b = decide (k ≤ bs.length) := by
      have whole := script bs.length (by rw [List.length_append, List.length_singleton]; omega)
      rwa [List.getElem_concat_length rfl] at whole
    rw [List.countP_append, ih earlier, List.length_append, List.length_singleton, last]
    by_cases reached : k ≤ bs.length
    · simp [reached]
      omega
    · simp [reached]
      omega

/-- The failures are the attempts that went wrong … -/
theorem countP_outcomes_not (path : StoragePath) (h : List Happening) :
    (outcomes path h).countP (! ·) = tally (Happening.fails path) h := by
  rw [outcomes, List.countP_filterMap, tally]
  apply List.countP_congr
  intro e _
  cases e with
  | createAnswered i s p answer =>
    by_cases here : p = path <;> cases answer <;> simp [Happening.verdict, Happening.fails, here]
  | probeAnswered i s p answer =>
    by_cases here : p = path <;> simp [Happening.verdict, Happening.fails, here]
  | _ => simp [Happening.verdict, Happening.fails]

/-- … and all that ended are those that went wrong and those that went well. -/
theorem length_outcomes (path : StoragePath) (h : List Happening) :
    (outcomes path h).length =
      tally (Happening.fails path) h + tally (Happening.confirms path) h := by
  induction h with
  | nil => rfl
  | cons e h ih =>
    have split : outcomes path (e :: h) = outcomes path [e] ++ outcomes path h :=
      List.filterMap_append (l := [e])
    rw [split, List.length_append, ih, tally_cons, tally_cons]
    have one : (outcomes path [e]).length = (e.fails path).toNat + (e.confirms path).toNat := by
      cases e with
      | createAnswered i s p answer =>
        by_cases here : p = path <;> cases answer <;>
          simp [outcomes, Happening.verdict, Happening.fails, Happening.confirms, here]
      | probeAnswered i s p answer =>
        by_cases here : p = path <;> cases hold : affirms answer <;>
          simp [outcomes, Happening.verdict, Happening.fails, Happening.confirms, here, hold]
      | _ => rfl
    omega

/-! ## What a call may do -/

/-- **After a success nothing is asked any more**, neither to make the folder nor to look for it. -/
theorem Reachable.not_asks_of_confirmed (h : Reachable uri t) {happening : Happening}
    (taken : Step uri t happening u) {path : StoragePath}
    (success : 0 < tally (Happening.confirms path) t.history) : happening.asks path = false := by
  cases taken with
  | called request => rfl
  | @moved i old new _ l at_ shift =>
    -- Whoever asks is inside, so the locations are not closed and the success is still to be seen.
    have ready_of_inside (inside : old.inside = true) : t.locations.contains path = true := by
      have open_ : t.locations.closed = false := by
        by_contra closed
        have nobody := h.gate.nobody_inside (Bool.not_eq_false _ ▸ closed)
        exact Bool.false_ne_true ((not_of_countP_eq_zero nobody at_).symm.trans inside)
      rw [h.confirmed_eq open_ path] at success
      cases ready : t.locations.contains path with
      | true => rfl
      | false =>
        rw [ready] at success
        exact absurd success (Nat.lt_irrefl 0)
    cases shift with
    | @createSent p storage missing turn =>
      apply decide_eq_false
      intro here
      subst here
      exact Bool.false_ne_true (missing.symm.trans (ready_of_inside rfl))
    | @probeSent p storage =>
      apply decide_eq_false
      intro here
      subst here
      have idle := h.cells.no_attempt p (ready_of_inside rfl)
      have busy := attemptsAt_pos at_ (decide_eq_true (rfl : p = p))
      omega
    | _ => rfl

/-- No call asks twice for a folder, nor looks twice for one. -/
theorem Story.attempts_le_one {sessionId : String} {i : Nat} {h : List Happening} {stage : Stage}
    (story : Story uri sessionId i h stage) :
    tally Happening.begins h ≤ 1 ∧ tally Happening.looks h ≤ 1 := by
  have le_of_ending {w : Workspace} {path : StoragePath} {done : List Happening}
      {result : Except Error StoragePath} (ending : Ending uri i w path done result) :
      tally Happening.begins done ≤ 1 ∧ tally Happening.looks done ≤ 1 := by
    cases ending <;> constructor <;>
      simp [begun, tried, tally_cons, Happening.begins, Happening.looks]
  cases stage with
  | asking w | admitted w =>
    cases story
    constructor <;> simp [tally_cons, Happening.begins, Happening.looks]
  | waiting p s | creating p s | created p s | probing p s =>
    obtain ⟨w, -, rfl⟩ := story
    constructor <;> simp [begun, tried, tally_cons, Happening.begins, Happening.looks]
  | leaving p r =>
    obtain ⟨w, -, ending⟩ := story
    exact le_of_ending ending
  | ensured p r =>
    obtain ⟨w, done, -, ending, rfl⟩ := story
    rw [tally_append, tally_append]
    exact le_of_ending ending
  | closing | deleting left underway count | cleaned count =>
    have begins : tally Happening.begins h = 0 := by
      apply tally_eq_zero_iff.mpr
      intro e mem
      have ends := story.ends rfl mem
      cases e <;> first | rfl | cases ends
    have looks : tally Happening.looks h = 0 := by
      apply tally_eq_zero_iff.mpr
      intro e mem
      have ends := story.ends rfl mem
      cases e <;> first | rfl | cases ends
    omega

/-- Whether the attempt of call `i` at `path` failed, and what lay behind. -/
def Failed (i : Nat) (path : StoragePath) (storage : String) (cause : Cause)
    (h : List Happening) : Prop :=
  (∃ e, .createAnswered i storage path (.error e) ∈ h ∧ cause = .error e) ∨
    (∃ e, .probeAnswered i storage path (.error e) ∈ h ∧ cause = .error e) ∨
      .probeAnswered i storage path (.ok false) ∈ h ∧ cause = .unknown

/-- Whether an attempt of a call failed is part of the story of the call. -/
theorem failed_own_iff {i : Nat} {path : StoragePath} {storage : String} {cause : Cause}
    {h : List Happening} : Failed i path storage cause (own i h) ↔ Failed i path storage cause h := by
  simp [Failed, mem_own_iff, Happening.caller]

/-- As long as the locations are open, nobody was refused. -/
theorem Reachable.refused_eq_zero (h : Reachable uri t) (open_ : t.locations.closed = false)
    (path : StoragePath) : tally (Happening.refuses path) t.history = 0 := by
  induction h using Reachable.induction with
  | start sessionId spans _ => rfl
  | @step t u happening before _ taken ih =>
    have was := taken.open_before open_
    rw [taken.history_eq, tally_append, ih was, tally_singleton]
    cases taken with
    | called request => rfl
    | moved at_ shift =>
      cases shift with
      | refused _ shut => exact absurd (was.symm.trans shut) Bool.false_ne_true
      | _ => rfl

/-- **A call fails exactly when its own attempt failed**, and its error tells the location, the
storage and what lay behind. -/
theorem Reachable.error_iff (h : Reachable uri t) (open_ : t.locations.closed = false) {i : Nat}
    {path : StoragePath} {result : Except Error StoragePath}
    (mem : Happening.returned i path result ∈ t.history) (e : Error) :
    result = .error e ↔ ∃ storage cause, Failed i path storage cause t.history ∧
      e = Locations.provisionError path (uri storage) cause := by
  obtain ⟨w, done, -, ending, eq⟩ := h.ending mem
  simp only [← failed_own_iff (h := t.history), eq]
  cases ending with
  | refused =>
    -- The door was open.
    have shut : Happening.refused i path ∈ own i t.history := by
      rw [eq]
      simp
    have never := tally_eq_zero_iff.mp (h.refused_eq_zero open_ path) _ (mem_own_iff.mp shut).1
    exact absurd never (by simp [Happening.refuses])
  | found => simp [Failed, begun]
  | createFailed storage cause =>
    simp [Failed, begun, eq_comm]
  | probeFailed storage cause => simp [Failed, begun, tried, eq_comm]
  | nothing storage => simp [Failed, begun, tried, eq_comm]
  | settled storage => simp [Failed, begun, tried]

/-! ## Counting calls and attempts -/

/-- A call that makes the location, or has its result, is pending. -/
theorem at_rest_of_pendingAt_eq_zero {path : StoragePath} (rest : t.pendingAt path = 0) :
    t.attemptsAt path = 0 ∧ t.stages.countP (Stage.denying path) = 0 ∧
      t.stages.countP (Stage.granting path) = 0 := by
  have zero (kind : Stage → Bool) (pending : ∀ stage, kind stage = true →
      stage.pendingAt t.locations.sessionId path = true) : t.stages.countP kind = 0 := by
    refine Nat.le_zero.mp (rest ▸ ?_)
    exact List.countP_mono_left fun stage _ => pending stage
  refine ⟨zero _ fun stage => ?_, zero _ fun stage => ?_, zero _ fun stage => ?_⟩
  · cases stage <;> simp [Stage.attempts, Stage.pendingAt]
  · cases stage with
    | leaving p result => cases result <;> simp [Stage.denying, Stage.pendingAt]
    | _ => simp [Stage.denying]
  · cases stage with
    | leaving p result => cases result <;> simp [Stage.granting, Stage.pendingAt]
    | _ => simp [Stage.granting]

/-- The books at rest, while the locations are open: with every call for `path` answered, the errors
are the failed attempts, and the paths are the success with what was found afterwards. -/
theorem Reachable.books_at_rest (h : Reachable uri t) (open_ : t.locations.closed = false)
    {path : StoragePath} (rest : t.pendingAt path = 0) :
    tally (Happening.creates path) t.history =
        tally (Happening.fails path) t.history + tally (Happening.confirms path) t.history ∧
      tally (Happening.denies path) t.history = tally (Happening.fails path) t.history ∧
      tally (Happening.wants t.locations.sessionId path) t.history =
        tally (Happening.grants path) t.history + tally (Happening.denies path) t.history ∧
      tally (Happening.confirms path) t.history ≤ tally (Happening.grants path) t.history ∧
      (tally (Happening.confirms path) t.history = 0 →
        tally (Happening.grants path) t.history = 0) := by
  obtain ⟨attempts, denying, granting⟩ := at_rest_of_pendingAt_eq_zero rest
  have created := h.attempts_eq path
  have denied := h.denials_eq path
  have granted := h.grants_eq path
  have called := h.calls_eq path
  have refused := h.refused_eq_zero open_ path
  refine ⟨by omega, by omega, by omega, by omega, fun unconfirmed => ?_⟩
  have := h.finds_eq_zero unconfirmed
  omega

/-! ## The promise -/

/-- What is promised of making locations, as long as they are not closed. -/
structure Provisioned (uri : String → String) (t : LocationCalls) : Prop where
  /-- Two attempts at one location are never under way together. -/
  one_attempt : ∀ path, t.attemptsAt path ≤ 1
  /-- After an attempt succeeded, its storage is asked neither to make the folder nor to look for
  it. -/
  no_more : ∀ path i storage before after,
    t.history = before ++ .probeAnswered i storage path (.ok true) :: after →
      ∀ e ∈ after, e.asks path = false
  /-- A folder was asked for once for each failed attempt, once more if its location is ready, and
  once more if an attempt is under way. -/
  creations : ∀ path, tally (Happening.creates path) t.history =
    tally (Happening.fails path) t.history + (t.locations.contains path).toNat +
      t.attemptsAt path
  /-- A call answers a path only after some call made the location, and it is the call's own. -/
  made_before : ∀ i path r before after,
    t.history = before ++ .returned i path (.ok r) :: after → r = path ∧ Made path before
  /-- A call asks for one folder at most, and looks for one at most. -/
  one_per_call : ∀ i, tally Happening.begins (own i t.history) ≤ 1 ∧
    tally Happening.looks (own i t.history) ≤ 1
  /-- A call answers an error exactly when its own attempt failed, with what lay behind. -/
  error_iff : ∀ i path result, .returned i path result ∈ t.history →
    ∀ e, result = .error e ↔ ∃ storage cause, Failed i path storage cause t.history ∧
      e = Locations.provisionError path (uri storage) cause
  /-- The error names the location. -/
  error_names : ∀ i path e, .returned i path (.error e) ∈ t.history →
    e.reason? = some (.locationMissing path.path)
  /-- Of `n` calls for a location that was not ready, whose storage failed the first `k` attempts,
  the smaller of `n` and `k` got an error and the others the path; and the folder was asked for until
  it was there. -/
  scripted : ∀ s moves later path k, Reachable uri s → s.run uri moves = some t →
    t.history = s.history ++ later → s.locations.contains path = false →
    s.pendingAt path = 0 → t.pendingAt path = 0 → FailsFirst k (outcomes path later) →
      let n := tally (Happening.wants t.locations.sessionId path) later
      tally (Happening.denies path) later = min n k ∧
        tally (Happening.grants path) later = n - min n k ∧
        tally (Happening.creates path) later = min n (k + 1)

/-- **Locations are made once.**  In every schedule of any number of calls, with any answers of the
storages, the promise is kept as long as the locations are not closed. -/
theorem Reachable.provisioned (h : Reachable uri t) (open_ : t.locations.closed = false) :
    Provisioned uri t where
  one_attempt := h.cells.one_attempt
  no_more := by
    intro path i storage before after split e mem
    obtain ⟨u, v, reached, seen, taken⟩ := h.moment_since split mem
    apply reached.not_asks_of_confirmed taken
    exact tally_pos_iff.mpr ⟨_, seen, by simp [Happening.confirms, affirms]⟩
  creations := by
    intro path
    have created := h.attempts_eq path
    have confirmed := h.confirmed_eq open_ path
    omega
  made_before := by
    intro i path r before after split
    obtain ⟨u, v, moves, reached, rfl, taken, -, -⟩ := h.moment split
    cases taken with
    | moved at_ shift =>
      cases shift with
      | returned =>
        obtain ⟨w, -, ending⟩ := reached.story at_
        exact reached.made_of_ok ending rfl
  one_per_call := by
    intro i
    cases at_ : t.stages[i]? with
    | some stage => exact (h.story at_).attempts_le_one
    | none =>
      -- Nothing happens to calls that were not made.
      have untouched : own i t.history = [] := by
        apply List.filter_eq_nil_iff.mpr
        intro e mem mine
        have bound := h.caller_lt mem
        have beyond := List.getElem?_eq_none_iff.mp at_
        have := of_decide_eq_true mine
        omega
      rw [untouched]
      exact ⟨Nat.zero_le _, Nat.zero_le _⟩
  error_iff := fun i path result mem e => h.error_iff open_ mem e
  error_names := by
    intro i path e mem
    obtain ⟨storage, cause, -, rfl⟩ := (h.error_iff open_ mem e).mp rfl
    rfl
  scripted := by
    intro s moves later path k reached run split missing rest_before rest_after script
    have was_open : s.locations.closed = false := by
      by_contra closed
      have same := reached.locations_run (Bool.not_eq_false _ ▸ closed) run
      rw [same] at open_
      exact closed open_
    have none_before : tally (Happening.confirms path) s.history = 0 := by
      rw [reached.confirmed_eq was_open path, missing]
      rfl
    have before := reached.books_at_rest was_open rest_before
    have after := h.books_at_rest open_ rest_after
    have once := h.confirmed_le_one path
    rw [← sessionId_run run] at before
    simp only [split, tally_append] at after once
    -- What was scripted: how many of the attempts in between failed.
    have failures := script.failures
    rw [countP_outcomes_not, length_outcomes] at failures
    simp only
    omega

/-- Two calls for one location; the folder cannot be made at first. -/
def retried : List Move :=
  [.call (.ensure scratch), .call (.ensure scratch), .proceed 0, .proceed 1, .proceed 1, .proceed 0,
    .proceed 0, .create 0 (.error .unreadable), .proceed 1, .create 1 (.ok ()), .proceed 0,
    .proceed 1, .probe 1 (.ok true), .proceed 1]

/-- One of the two calls gets an error, the other one the path, and the folder is asked for twice. -/
theorem provisioned_retried : ∃ t, fresh.run id retried = some t ∧ t.locations.closed = false ∧
    Provisioned id t ∧ tally (Happening.denies (t.pathIn scratch)) t.history = 1 ∧
      tally (Happening.grants (t.pathIn scratch)) t.history = 1 ∧
        tally (Happening.creates (t.pathIn scratch)) t.history = 2 := by
  refine ⟨_, rfl, rfl, ?_⟩
  have kept : Provisioned id _ := Reachable.provisioned (.of_trial retried rfl) rfl
  exact ⟨kept, kept.scripted fresh retried _ _ 1 .fresh rfl rfl rfl rfl rfl (by decide)⟩

end QuerySession.LocationCalls
