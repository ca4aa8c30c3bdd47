import QuerySession.Proofs.Locations
import QuerySession.Proofs.LocationCalls.Step

/-!
# The lock on the locations

The locations are shared, or belong to one call.  What makes this worth having is the third
component of `Gate`: a closed set of locations is empty, and nobody who found it open is left inside.
It is inductive only together with the first two, since it is the *lock* that keeps a call from
coming in while another one closes the locations.

* `Reachable.gate` — the invariant
* `Step.locations_eq` — once closed, the locations never change again
* `Reachable.closed_iff` — closed means that some `cleanup` came to have the locations for itself
-/

namespace QuerySession.LocationCalls

variable {uri : String → String} {t u v : LocationCalls}

/-- Whether a call saw the locations open and has not come to a result yet, or found or made its
location and has not returned yet. -/
def Stage.inside : Stage → Bool
  | .admitted _ | .waiting .. | .creating .. | .created .. | .probing .. => true
  | .leaving _ (.ok _) => true
  | .asking _ | .leaving _ (.error _) | .ensured .. | .closing | .deleting .. | .cleaned _ => false

/-! ## Counting calls -/

/-- A new call neither shares the locations nor has them for itself. -/
theorem countP_join (kind : Stage → Bool) (t : LocationCalls) (request : Request) :
    (t.join request).stages.countP kind =
      t.stages.countP kind + (kind (Stage.first request)).toNat := by
  rw [join, List.countP_append]
  cases hold : kind (Stage.first request) <;> simp [hold]

@[simp] theorem writers_join (t : LocationCalls) (request : Request) :
    (t.join request).writers = t.writers := by
  have counted := countP_join Stage.excludes t request
  cases request <;> exact counted

@[simp] theorem readers_join (t : LocationCalls) (request : Request) :
    (t.join request).readers = t.readers := by
  have counted := countP_join Stage.shares t request
  cases request <;> exact counted

@[simp] theorem attemptsAt_join (t : LocationCalls) (request : Request) (path : StoragePath) :
    (t.join request).attemptsAt path = t.attemptsAt path := by
  have counted := countP_join (Stage.attempts path) t request
  cases request <;> exact counted

/-- No call stands in a stage of a kind of which there is none. -/
theorem not_of_countP_eq_zero {kind : Stage → Bool} (none_ : t.stages.countP kind = 0) {i : Nat}
    {stage : Stage} (at_ : t.stages[i]? = some stage) : kind stage = false := by
  have absent := List.countP_eq_zero.mp none_ stage (List.mem_of_getElem? at_)
  exact Bool.eq_false_iff.mpr absent

/-! ## The invariant -/

/-- What the lock guarantees. -/
structure Gate (t : LocationCalls) : Prop where
  /-- The locations belong to one call at most. -/
  one_writer : t.writers ≤ 1
  /-- They are not shared meanwhile. -/
  apart : t.writers = 0 ∨ t.readers = 0
  /-- The call they belong to has closed them. -/
  closed_of_writer : t.writers ≠ 0 → t.locations.closed = true
  /-- Once they are closed, nobody who saw them open is left. -/
  nobody_inside : t.locations.closed = true → t.stages.countP Stage.inside = 0
  /-- Once they are closed, none is known. -/
  emptied : t.locations.closed = true → t.locations.known = .empty

/-- Everybody inside has a share. -/
theorem inside_le_readers (t : LocationCalls) : t.stages.countP Stage.inside ≤ t.readers := by
  apply List.countP_mono_left
  intro stage _ inside
  unfold Stage.inside at inside
  split at inside <;> first | rfl | cases inside

/-- One call that goes on leaves the lock in order. -/
theorem Shift.gate {i : Nat} {old new : Stage} {happening : Happening} {l : Locations}
    (shift : Shift uri t i old happening new l) (at_ : t.stages[i]? = some old)
    (gate : Gate t) : Gate (t.put i new happening l) := by
  obtain ⟨one, apart, shut, nobody, emptied⟩ := gate
  -- A moved call is not counted as it was, but as it is.
  have writers : (t.put i new happening l).writers + old.excludes.toNat =
      t.writers + new.excludes.toNat := countP_put Stage.excludes at_ new happening l
  have readers : (t.put i new happening l).readers + old.shares.toNat =
      t.readers + new.shares.toNat := countP_put Stage.shares at_ new happening l
  have inner := countP_put Stage.inside at_ new happening l
  cases shift with
  | refused free closed =>
    simp only [Stage.excludes, Stage.shares, Stage.inside, Bool.toNat_false, Bool.toNat_true]
      at writers readers inner
    refine ⟨by omega, .inl (by omega), fun held => absurd free (by omega), fun _ => ?_, emptied⟩
    have := nobody closed
    omega
  | admitted free open_ =>
    simp only [Stage.excludes, Stage.shares, Bool.toNat_false, Bool.toNat_true] at writers readers
    have never {P : Prop} (closed : t.locations.closed = true) : P :=
      absurd (open_.symm.trans closed) Bool.false_ne_true
    exact ⟨by omega, .inl (by omega), fun held => absurd free (by omega), never, never⟩
  | @named w =>
    simp only [Stage.excludes, Stage.shares, Stage.inside, Bool.toNat_false, Bool.toNat_true]
      at writers readers inner
    -- The call that names its location is inside itself.
    have never {P : Prop} (closed : (t.locations.enter (t.pathIn w) w.storage).2.closed = true) :
        P := by
      rw [Locations.closed_enter] at closed
      cases not_of_countP_eq_zero (nobody closed) at_
    refine ⟨by omega, by omega, fun held => ?_, never, never⟩
    rw [put, Locations.closed_enter]
    exact shut (by omega)
  | settled =>
    simp only [Stage.excludes, Stage.shares, Stage.inside, Bool.toNat_false, Bool.toNat_true]
      at writers readers inner
    have never {P : Prop} (closed : t.locations.closed = true) : P := by
      cases not_of_countP_eq_zero (nobody closed) at_
    exact ⟨by omega, by omega, fun held => shut (by omega), never, never⟩
  | locked unshared free =>
    simp only [Stage.excludes, Stage.shares, Stage.inside, Bool.toNat_false, Bool.toNat_true]
      at writers readers inner
    refine ⟨by omega, .inr (by omega), fun _ => rfl, fun _ => ?_, fun _ => rfl⟩
    have := inside_le_readers t
    omega
  | found _ | createSent _ _ | createFailed _ | created | probeSent | probeFailed _ | nothing | returned
    | deleteSent _ | deleteAnswered _ _ | cleaned =>
    all_goals
      try rename Except Error StoragePath => result
      try cases result
    all_goals
      simp only [Stage.excludes, Stage.shares, Stage.inside, Bool.toNat_false, Bool.toNat_true]
        at writers readers inner
      refine ⟨by omega, by omega, fun held => shut (by omega), fun closed => ?_, emptied⟩
      have := nobody closed
      omega

/-- **The lock is always in order.** -/
theorem Reachable.gate (h : Reachable uri t) : Gate t := by
  induction h using Reachable.induction with
  | start sessionId spans _ =>
    exact ⟨Nat.zero_le _, .inl rfl, fun held => absurd rfl held, fun _ => rfl, fun _ => rfl⟩
  | step _ _ taken gate =>
    cases taken with
    | called request =>
      refine ⟨?_, ?_, ?_, fun closed => ?_, gate.emptied⟩
      · rw [writers_join]
        exact gate.one_writer
      · rw [writers_join, readers_join]
        exact gate.apart
      · rw [writers_join]
        exact gate.closed_of_writer
      · rw [countP_join]
        have := gate.nobody_inside closed
        cases request <;> exact this
    | moved at_ shift => exact shift.gate at_ gate

/-! ## What stays -/

/-- The session keeps its id, and with it the paths of its locations. -/
theorem Step.sessionId_eq {happening : Happening} (taken : Step uri t happening u) :
    u.locations.sessionId = t.locations.sessionId := by
  cases taken with
  | called request => rfl
  | moved at_ shift =>
    cases shift with
    | named => exact Locations.sessionId_enter
    | _ => rfl

/-- The session keeps its id over a whole run. -/
theorem sessionId_run {moves : List Move} (h : t.run uri moves = some u) :
    u.locations.sessionId = t.locations.sessionId := by
  refine Schedule.induction
    (motive := fun _ u => u.locations.sessionId = t.locations.sessionId) rfl ?_ h
  intro moves m v w _ one same
  obtain ⟨happening, taken⟩ := Step.of_step one
  exact taken.sessionId_eq.trans same

/-- Once the locations are closed, no step changes them any more. -/
theorem Step.locations_eq {happening : Happening} (taken : Step uri t happening u) (gate : Gate t)
    (closed : t.locations.closed = true) : u.locations = t.locations := by
  cases taken with
  | called request => rfl
  | moved at_ shift =>
    cases shift with
    | named => cases not_of_countP_eq_zero (gate.nobody_inside closed) at_
    | settled => cases not_of_countP_eq_zero (gate.nobody_inside closed) at_
    | locked unshared free =>
      have drained := Locations.drain_of_drained closed (gate.emptied closed)
      exact congrArg Prod.snd drained
    | _ => rfl

/-- **Closed for good.**  Once the locations are closed, no run changes them any more. -/
theorem Reachable.locations_run (h : Reachable uri t) (closed : t.locations.closed = true)
    {moves : List Move} (later : t.run uri moves = some u) : u.locations = t.locations := by
  refine Schedule.induction (motive := fun _ u => u.locations = t.locations) rfl ?_ later
  intro moves m v w earlier one same
  obtain ⟨happening, taken⟩ := Step.of_step one
  exact (taken.locations_eq (h.run earlier).gate (same ▸ closed)).trans same

/-- The locations are closed exactly when some `cleanup` came to have them for itself. -/
theorem Reachable.closed_iff (h : Reachable uri t) :
    t.locations.closed = true ↔ ∃ i, .locked i ∈ t.history := by
  induction h using Reachable.induction with
  | start sessionId spans _ =>
    constructor
    · exact fun closed => absurd closed Bool.false_ne_true
    · rintro ⟨i, mem⟩
      cases mem
  | @step t u happening before _ taken ih =>
    rw [taken.history_eq]
    constructor
    · intro closed
      by_cases was : t.locations.closed = true
      · obtain ⟨i, mem⟩ := ih.mp was
        exact ⟨i, List.mem_append_left _ mem⟩
      · -- The step closed them.
        have here : ∃ i, happening = .locked i := by
          cases taken with
          | called request => exact absurd closed was
          | moved at_ shift =>
            cases shift with
            | named =>
              rw [put, Locations.closed_enter] at closed
              exact absurd closed was
            | locked _ _ => exact ⟨_, rfl⟩
            | _ => exact absurd closed was
        obtain ⟨i, rfl⟩ := here
        exact ⟨i, List.mem_append_right _ (List.mem_singleton_self _)⟩
    · rintro ⟨i, mem⟩
      rcases List.mem_append.mp mem with earlier | last
      · have closed := ih.mpr ⟨i, earlier⟩
        rw [taken.locations_eq before.gate closed]
        exact closed
      · cases List.mem_singleton.mp last
        cases taken with
        | moved at_ shift =>
          cases shift with
          | locked _ _ => rfl

end QuerySession.LocationCalls
