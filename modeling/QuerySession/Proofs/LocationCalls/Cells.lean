import QuerySession.Proofs.LocationCalls.Gate
import QuerySession.Proofs.LocationCalls.History

/-!
# Making one location

A location is made by one call at a time.  Three facts carry each other here: a call that is at work
on a location finds it known, with the storage it works on; no two calls make the same location; and
nobody makes one that is ready.

What is known of a location is also a matter of the past alone: its storage is that of the first
call that named it, and it is ready when a storage once confirmed it.

* `Reachable.known_of_knows` — the location of a call is known, with the same storage
* `Reachable.cells` — **one attempt at a time**, and none for a location that is ready
* `Reachable.confirmed_eq` — ready means confirmed, and confirmed once
* `Reachable.storage_eq` — the storage is that of the first call that named the location
-/

namespace QuerySession.LocationCalls

variable {uri : String → String} {t u v : LocationCalls}

/-- The location that a call looked up, and the storage it found there. -/
def Stage.knows : Stage → Option (StoragePath × String)
  | .waiting path storage | .creating path storage | .created path storage
  | .probing path storage => some (path, storage)
  | .asking _ | .admitted _ | .leaving .. | .ensured .. | .closing | .deleting .. | .cleaned _ =>
    none

/-- Whoever knows a location is inside. -/
theorem Stage.inside_of_knows {stage : Stage} {e : StoragePath × String}
    (knows : stage.knows = some e) : stage.inside = true := by
  cases stage <;> first | rfl | cases knows

/-- Whoever makes a location knows it. -/
theorem Stage.knows_of_attempts {stage : Stage} {path : StoragePath}
    (attempts : stage.attempts path = true) : ∃ storage, stage.knows = some (path, storage) := by
  cases stage with
  | creating p storage | created p storage | probing p storage =>
    cases of_decide_eq_true attempts
    exact ⟨storage, rfl⟩
  | _ => cases attempts

/-! ## The location of a call is known -/

/-- What is known of a location stays known when others are looked up. -/
theorem find?_enter_of_known {l : Locations} {path other : StoragePath} {storage : String}
    {location : Location} (known : l.known.find? other = some location) :
    (l.enter path storage).2.known.find? other = some location := by
  rw [Locations.find?_enter]
  by_cases same : path = other
  · subst same
    rw [if_pos rfl, Locations.enter_eq_of_known known]
  · rw [if_neg same, known]

/-- No step takes the storage of a location away from the calls that know it. -/
theorem Shift.known {i : Nat} {old new : Stage} {happening : Happening} {l : Locations}
    (shift : Shift uri t i old happening new l) {path : StoragePath} {storage : String}
    {ready : Bool} (shared : t.readers ≠ 0)
    (known : t.locations.known.find? path = some ⟨storage, ready⟩) :
    ∃ r, l.known.find? path = some ⟨storage, r⟩ := by
  cases shift with
  | named => exact ⟨ready, find?_enter_of_known known⟩
  | @settled settled _ =>
    rw [Locations.find?_settle]
    by_cases same : settled = path
    · subst same
      exact ⟨true, by rw [if_pos rfl, known]; rfl⟩
    · exact ⟨ready, by rw [if_neg same, known]⟩
  | locked unshared _ => exact absurd unshared shared
  | _ => exact ⟨ready, known⟩

/-- A call that knows a location has a share. -/
theorem readers_ne_zero_of_knows {i : Nat} {stage : Stage} (at_ : t.stages[i]? = some stage)
    {e : StoragePath × String} (knows : stage.knows = some e) : t.readers ≠ 0 := by
  intro unshared
  have shares := not_of_countP_eq_zero unshared at_
  cases stage with
  | waiting p s | creating p s | created p s | probing p s => cases shares
  | _ => cases knows

/-- **The location of a call is known**, with the storage that the call works on. -/
theorem Reachable.known_of_knows (h : Reachable uri t) {i : Nat} {stage : Stage}
    {path : StoragePath} {storage : String} (at_ : t.stages[i]? = some stage)
    (knows : stage.knows = some (path, storage)) :
    ∃ ready, t.locations.known.find? path = some ⟨storage, ready⟩ := by
  induction h using Reachable.induction generalizing i stage with
  | start sessionId spans _ => cases at_
  | @step t _ _ _ _ taken ih =>
    cases taken with
    | called request =>
      rcases getElem?_join at_ with earlier | ⟨_, rfl⟩
      · exact ih earlier knows
      · -- A new call knows nothing yet.
        cases request <;> cases knows
    | @moved j before after happening l stood shift =>
      rw [getElem?_put stood] at at_
      by_cases same : j = i
      · -- The call itself: it knew its location before, or it has just looked it up.
        subst same
        rw [if_pos rfl] at at_
        cases at_
        cases shift with
        | @named w =>
          cases knows
          refine ⟨(t.locations.enter (t.pathIn w) w.storage).1.ready, ?_⟩
          rw [put, Locations.find?_enter, if_pos rfl]
        | createSent _ _ | created | probeSent =>
          cases knows
          exact ih stood rfl
        | _ => cases knows
      · rw [if_neg same] at at_
        obtain ⟨ready, known⟩ := ih at_ knows
        exact shift.known (readers_ne_zero_of_knows at_ knows) known

/-! ## One attempt at a time -/

/-- What the turns at a location guarantee. -/
structure Cells (t : LocationCalls) : Prop where
  /-- No two calls make the same location. -/
  one_attempt : ∀ path, t.attemptsAt path ≤ 1
  /-- Nobody makes a location that is ready. -/
  no_attempt : ∀ path, t.locations.contains path = true → t.attemptsAt path = 0

/-- A call that is making a location counts. -/
theorem attemptsAt_pos {i : Nat} {stage : Stage} (at_ : t.stages[i]? = some stage)
    {path : StoragePath} (attempts : stage.attempts path = true) : 0 < t.attemptsAt path :=
  List.countP_pos_iff.mpr ⟨stage, List.mem_of_getElem? at_, attempts⟩

/-- One call that goes on leaves the turns in order. -/
theorem Shift.cells {i : Nat} {old new : Stage} {happening : Happening} {l : Locations}
    (shift : Shift uri t i old happening new l) (h : Reachable uri t)
    (at_ : t.stages[i]? = some old) (cells : Cells t) : Cells (t.put i new happening l) := by
  obtain ⟨one, no⟩ := cells
  have counted (path : StoragePath) : (t.put i new happening l).attemptsAt path +
      (old.attempts path).toNat = t.attemptsAt path + (new.attempts path).toNat :=
    countP_put (Stage.attempts path) at_ new happening l
  cases shift with
  | @createSent path storage missing turn =>
    -- The call takes its turn: nobody else is at it, and the location is not ready.
    refine ⟨fun other => ?_, fun other ready => ?_⟩
    · have eq := counted other
      by_cases same : path = other
      · subst same
        simp only [Stage.attempts, decide_true, Bool.toNat_false, Bool.toNat_true] at eq
        omega
      · simp only [Stage.attempts, same, decide_false, Bool.toNat_false] at eq
        have := one other
        omega
    · have eq := counted other
      have apart : path ≠ other := by
        rintro rfl
        exact Bool.false_ne_true (missing.symm.trans ready)
      simp only [Stage.attempts, apart, decide_false, Bool.toNat_false] at eq
      have := no other ready
      omega
  | @settled path storage =>
    -- The turn ends in the step that makes the location ready.
    obtain ⟨ready, known⟩ := h.known_of_knows at_ rfl
    refine ⟨fun other => ?_, fun other there => ?_⟩
    · have eq := counted other
      have := one other
      simp only [Stage.attempts, Bool.toNat_false] at eq
      omega
    · have eq := counted other
      have := one other
      rw [put, Locations.contains_settle known] at there
      by_cases same : path = other
      · subst same
        simp only [Stage.attempts, decide_true, Bool.toNat_false, Bool.toNat_true] at eq
        omega
      · rw [if_neg same] at there
        have := no other there
        simp only [Stage.attempts, Bool.toNat_false] at eq
        omega
  | @named w =>
    have same : (t.locations.enter (t.pathIn w) w.storage).2.contains = t.locations.contains :=
      Locations.paths_enter ..
    refine ⟨fun other => ?_, fun other ready => ?_⟩
    · have eq := counted other
      have := one other
      simp only [Stage.attempts, Bool.toNat_false] at eq
      omega
    · have eq := counted other
      have := no other (by rwa [put, same] at ready)
      simp only [Stage.attempts, Bool.toNat_false] at eq
      omega
  | locked _ _ =>
    refine ⟨fun other => ?_, fun other ready => ?_⟩
    · have eq := counted other
      have := one other
      simp only [Stage.attempts, Bool.toNat_false] at eq
      omega
    · exact absurd ((Locations.contains_drain ..).symm.trans ready) Bool.false_ne_true
  | refused _ _ | admitted _ _ | found _ | createFailed _ | created | probeSent | probeFailed _
    | nothing | returned | deleteSent _ | deleteAnswered _ _ | cleaned =>
    -- The calls at work on a location are the same as before, or one less.
    refine ⟨fun other => ?_, fun other ready => ?_⟩
    · have eq := counted other
      have := one other
      simp only [Stage.attempts, Bool.toNat_false] at eq
      omega
    · have eq := counted other
      have := no other ready
      simp only [Stage.attempts, Bool.toNat_false] at eq
      omega

/-- **One attempt at a time**, and none for a location that is ready. -/
theorem Reachable.cells (h : Reachable uri t) : Cells t := by
  induction h using Reachable.induction with
  | start sessionId spans _ => exact ⟨fun _ => Nat.zero_le _, fun _ _ => rfl⟩
  | step before _ taken cells =>
    cases taken with
    | called request =>
      refine ⟨fun path => ?_, fun path ready => ?_⟩
      · rw [attemptsAt_join]
        exact cells.one_attempt path
      · rw [attemptsAt_join]
        exact cells.no_attempt path ready
    | moved at_ shift => exact shift.cells before at_ cells

/-! ## What the past says of a location -/

/-- What is not closed after a step was not closed before. -/
theorem Step.open_before {happening : Happening} (taken : Step uri t happening u)
    (open_ : u.locations.closed = false) : t.locations.closed = false := by
  cases taken with
  | called request => exact open_
  | moved at_ shift =>
    cases shift with
    | named =>
      rw [put, Locations.closed_enter] at open_
      exact open_
    | locked _ _ => cases open_
    | _ => exact open_

/-- **Ready means confirmed**, by exactly one look at the storage. -/
theorem Reachable.confirmed_eq (h : Reachable uri t) (open_ : t.locations.closed = false)
    (path : StoragePath) :
    tally (Happening.confirms path) t.history = (t.locations.contains path).toNat := by
  induction h using Reachable.induction with
  | start sessionId spans _ => rfl
  | @step t u happening before _ taken ih =>
    rw [taken.history_eq, tally_append, tally_singleton, ih (taken.open_before open_)]
    cases taken with
    | called request => rfl
    | moved at_ shift =>
      cases shift with
      | @named w =>
        rw [put, Locations.paths_enter]
        rfl
      | @settled settled storage =>
        obtain ⟨ready, known⟩ := before.known_of_knows at_ rfl
        rw [put, Locations.contains_settle known]
        by_cases same : settled = path
        · -- It was not ready before, since this call was making it.
          subst same
          have missing : t.locations.contains settled = false := by
            by_contra there
            have := before.cells.no_attempt settled (Bool.not_eq_false _ ▸ there)
            have := attemptsAt_pos at_ (decide_eq_true (rfl : settled = settled))
            omega
          simp [missing, Happening.confirms, affirms]
        · simp [same, Happening.confirms]
      | locked _ _ => cases open_
      | probeFailed e => simp [Happening.confirms, affirms, put]
      | nothing => simp [Happening.confirms, affirms, put]
      | _ => rfl

/-- **The storage of a location** is that of the workspace that named it first. -/
theorem Reachable.storage_eq (h : Reachable uri t) (open_ : t.locations.closed = false)
    (path : StoragePath) :
    (t.locations.known.find? path).map Location.storage =
      namer? t.locations.sessionId path t.history := by
  induction h using Reachable.induction with
  | start sessionId spans _ => rfl
  | @step t u happening before _ taken ih =>
    have earlier := ih (taken.open_before open_)
    rw [taken.history_eq, taken.sessionId_eq, namer?_append, namer?_singleton, ← earlier]
    cases taken with
    | called request => exact (Option.or_none).symm
    | moved at_ shift =>
      cases shift with
      | @named w =>
        rw [put, Locations.find?_enter]
        show _ = Option.or _ (if t.pathIn w = path then some w.storage else none)
        by_cases same : t.pathIn w = path
        · subst same
          rw [if_pos rfl, if_pos rfl]
          cases known : t.locations.known.find? (t.pathIn w) with
          | some location => rw [Locations.enter_eq_of_known known]; rfl
          | none => rw [Locations.enter_eq_of_unknown known]; rfl
        · rw [if_neg same, if_neg same, Option.or_none]
      | @settled settled storage =>
        rw [put, Locations.find?_settle]
        show _ = Option.or _ none
        rw [Option.or_none]
        by_cases same : settled = path
        · subst same
          rw [if_pos rfl]
          cases t.locations.known.find? settled <;> rfl
        · rw [if_neg same]
      | locked _ _ => cases open_
      | _ => exact (Option.or_none).symm

/-- Whoever knows a location works on the storage of the workspace that named it first. -/
theorem Reachable.namer_of_knows (h : Reachable uri t) {i : Nat} {stage : Stage}
    {path : StoragePath} {storage : String} (at_ : t.stages[i]? = some stage)
    (knows : stage.knows = some (path, storage)) :
    namer? t.locations.sessionId path t.history = some storage := by
  have open_ : t.locations.closed = false := by
    by_contra closed
    have nobody := h.gate.nobody_inside (Bool.not_eq_false _ ▸ closed)
    have inside := Stage.inside_of_knows knows
    rw [not_of_countP_eq_zero nobody at_] at inside
    cases inside
  obtain ⟨ready, known⟩ := h.known_of_knows at_ knows
  rw [← h.storage_eq open_ path, known]
  rfl

/-- The location that a storage call is about, and the storage, while it is being made. -/
def Happening.provisions : Happening → Option (StoragePath × String)
  | createSent _ storage path | createAnswered _ storage path _ | probeSent _ storage path
  | probeAnswered _ storage path _ => some (path, storage)
  | _ => none

/-- Whoever makes a storage call in an attempt knows the location. -/
theorem Shift.knows_of_provisions {i : Nat} {old new : Stage} {happening : Happening}
    {l : Locations} (shift : Shift uri t i old happening new l) {e : StoragePath × String}
    (provisions : happening.provisions = some e) : old.knows = some e := by
  cases shift <;> first | exact provisions | cases provisions

/-- Who named a location first is settled for good: what was known of it when something happened is
true later. -/
theorem Reachable.namer_of_mem (h : Reachable uri t) {happening : Happening}
    (mem : happening ∈ t.history) {path : StoragePath} {storage : String}
    (known : ∀ {u v : LocationCalls}, Reachable uri u → Step uri u happening v →
      namer? u.locations.sessionId path u.history = some storage) :
    namer? t.locations.sessionId path t.history = some storage := by
  obtain ⟨before, after, split⟩ := List.append_of_mem mem
  obtain ⟨u, v, moves, reached, rfl, taken, -, later⟩ := h.moment split
  have same : t.locations.sessionId = u.locations.sessionId :=
    (sessionId_run later).trans taken.sessionId_eq
  rw [split, same]
  exact namer?_append_of_some (known reached taken) _

/-- **Every attempt goes to one storage**, that of the workspace that named the location first. -/
theorem Reachable.namer_of_provisions (h : Reachable uri t) {happening : Happening}
    (mem : happening ∈ t.history) {path : StoragePath} {storage : String}
    (provisions : happening.provisions = some (path, storage)) :
    namer? t.locations.sessionId path t.history = some storage := by
  apply h.namer_of_mem mem
  intro u v reached taken
  cases taken with
  | called request => cases provisions
  | moved at_ shift => exact reached.namer_of_knows at_ (shift.knows_of_provisions provisions)

end QuerySession.LocationCalls
