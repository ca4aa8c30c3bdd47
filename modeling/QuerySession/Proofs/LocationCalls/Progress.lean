import QuerySession.Proofs.LocationCalls.Gate

/-!
# Every call returns

A schedule that makes no new calls comes to an end, and it does not end before every call has
returned: nobody waits for somebody who waits for nobody.

* **The measure.**  `Stage.work` bounds the steps of a call.  Looking up a location may make it
  known, and then it may have to be deleted, which takes two steps; a call that has yet to look up
  its location counts these as its own.
* **The chain of waiting.**  A call waits for the lock, or for its turn.  Whoever holds the lock for
  itself waits for storages alone; whoever has the turn waits for a storage alone; whoever shares the
  lock waits for a turn at most.

## Main Results

* `Shift.work_lt` — every step of a call takes work away
* `not_stuck` — **as long as a call has not returned, some call can go on**
* `returns_of_run` — both together
-/

namespace QuerySession.LocationCalls

variable {uri : String → String} {t u v : LocationCalls}

/-- Whether a call has returned. -/
def Stage.over : Stage → Bool
  | ensured .. | cleaned _ => true
  | _ => false

/-! ## The measure -/

/-- A bound on the steps of a call from now on. -/
def Stage.work : Stage → Nat
  | asking _ => 9
  | admitted _ => 8
  | waiting .. => 5
  | creating .. => 4
  | created .. => 3
  | probing .. => 2
  | leaving .. => 1
  | ensured .. => 0
  | closing => 2
  | deleting left underway _ => 1 + 2 * left.length + underway.length
  | cleaned _ => 0

/-- A bound on the steps of all calls from now on. -/
def work (t : LocationCalls) : Nat :=
  (t.stages.map Stage.work).sum + 2 * t.locations.known.size

/-- A step of a call takes work away. -/
theorem Shift.work_lt {i : Nat} {old new : Stage} {happening : Happening} {l : Locations}
    (shift : Shift uri t i old happening new l) :
    new.work + 2 * l.known.size < old.work + 2 * t.locations.known.size := by
  cases shift with
  | @named w =>
    have more := Locations.size_enter_le t.locations (t.pathIn w) w.storage
    simp only [Stage.work]
    omega
  | @settled path storage =>
    rw [Locations.size_settle]
    simp only [Stage.work]
    omega
  | locked unshared free =>
    have fewer := Locations.length_drain_le t.locations
    have nothing : t.locations.drain.2.known.size = 0 := rfl
    simp only [Stage.work, List.length_nil]
    omega
  | @deleteSent left underway count k e picked =>
    have bound : k < left.length := (List.getElem?_eq_some_iff.mp picked).1
    have fewer := List.length_eraseIdx_of_lt bound
    simp only [Stage.work, List.length_append, List.length_singleton]
    omega
  | @deleteAnswered left underway count k e answer picked =>
    have bound : k < underway.length := (List.getElem?_eq_some_iff.mp picked).1
    have fewer := List.length_eraseIdx_of_lt bound
    simp only [Stage.work]
    omega
  | _ =>
    simp only [Stage.work]
    omega

/-- Every step that is no new call takes work away. -/
theorem work_lt_of_step {m : Move} (one : t.step uri m = some u) (going_on : m.isCall = false) :
    u.work < t.work := by
  obtain ⟨i, old, new, happening, l, at_, shift, rfl⟩ := Shift.of_step one going_on
  have moved : ((t.put i new happening l).stages.map Stage.work).sum + old.work =
      (t.stages.map Stage.work).sum + new.work := sum_put Stage.work at_ new happening l
  have less := shift.work_lt
  simp only [work, locations_put]
  omega

/-- A schedule without new calls is no longer than there is work. -/
theorem length_le_work {moves : List Move} (h : t.run uri moves = some u)
    (going_on : ∀ m ∈ moves, m.isCall = false) : moves.length + u.work ≤ t.work := by
  induction moves generalizing t with
  | nil =>
    cases h
    simp
  | cons m moves ih =>
    obtain ⟨v, one, rest⟩ := Option.bind_eq_some_iff.mp h
    have less := work_lt_of_step one (going_on m List.mem_cons_self)
    have shorter := ih rest fun m' mem => going_on m' (List.mem_cons_of_mem m mem)
    rw [List.length_cons]
    omega

/-! ## The chain of waiting -/

/-- Whether some call can go on. -/
def CanGoOn (uri : String → String) (t : LocationCalls) : Prop :=
  ∃ m : Move, m.isCall = false ∧ (t.step uri m).isSome = true

/-- Somebody is in a stage that is counted. -/
theorem exists_of_countP_ne_zero {kind : Stage → Bool} (some_ : t.stages.countP kind ≠ 0) :
    ∃ (i : Nat) (stage : Stage), t.stages[i]? = some stage ∧ kind stage = true := by
  obtain ⟨stage, mem, hold⟩ := List.countP_pos_iff.mp (Nat.pos_of_ne_zero some_)
  obtain ⟨i, at_⟩ := List.mem_iff_getElem?.mp mem
  exact ⟨i, stage, at_, hold⟩

/-- A call that does not wait can go on. -/
theorem canGoOn_of_proceed {i : Nat} {stage : Stage} (at_ : t.stages[i]? = some stage)
    (next : (t.proceed i stage).isSome = true) : CanGoOn uri t := by
  refine ⟨.proceed i, rfl, ?_⟩
  rw [step, at_]
  exact next

/-- Whoever has the locations for itself can go on: it waits for storages alone. -/
theorem canGoOn_of_excludes {i : Nat} {stage : Stage} (at_ : t.stages[i]? = some stage)
    (excludes : stage.excludes = true) : CanGoOn uri t := by
  cases stage with
  | deleting left underway count =>
    match left, underway with
    | e :: left, underway =>
      refine ⟨.send i 0, rfl, ?_⟩
      simp only [step, at_, List.getElem?_cons_zero, Option.map_some, Option.isSome_some]
    | [], e :: underway =>
      refine ⟨.delete i 0 (.ok true), rfl, ?_⟩
      simp only [step, at_, List.getElem?_cons_zero, Option.map_some, Option.isSome_some]
    | [], [] => exact canGoOn_of_proceed at_ rfl
  | _ => cases excludes

/-- Whoever has the turn at a location can go on: it waits for a storage alone. -/
theorem canGoOn_of_attempts {i : Nat} {stage : Stage} (at_ : t.stages[i]? = some stage)
    {path : StoragePath} (attempts : stage.attempts path = true) : CanGoOn uri t := by
  cases stage with
  | creating p storage =>
    refine ⟨.create i (.ok ()), rfl, ?_⟩
    simp only [step, at_, Option.isSome_some]
  | created p storage => exact canGoOn_of_proceed at_ rfl
  | probing p storage =>
    refine ⟨.probe i (.ok true), rfl, ?_⟩
    simp only [step, at_, Option.isSome_some]
  | _ => cases attempts

/-- Whoever shares the locations can go on, or waits for somebody who has the turn and can. -/
theorem canGoOn_of_shares {i : Nat} {stage : Stage} (at_ : t.stages[i]? = some stage)
    (shares : stage.shares = true) : CanGoOn uri t := by
  cases stage with
  | admitted w => exact canGoOn_of_proceed at_ rfl
  | waiting path storage =>
    by_cases ready : t.locations.contains path = true
    · refine canGoOn_of_proceed at_ ?_
      rw [proceed, if_pos ready, Option.isSome_some]
    · by_cases turn : t.attemptsAt path = 0
      · refine canGoOn_of_proceed at_ ?_
        rw [proceed, if_neg ready, if_neg (not_not.mpr turn), Option.isSome_some]
      · obtain ⟨j, other, stands, attempts⟩ := exists_of_countP_ne_zero turn
        exact canGoOn_of_attempts stands attempts
  | creating path storage | created path storage | probing path storage =>
    exact canGoOn_of_attempts at_ (decide_eq_true (rfl : path = path))
  | leaving path result => exact canGoOn_of_proceed at_ rfl
  | _ => cases shares

/-- **Nobody is stuck.**  As long as a call has not returned, some call can go on. -/
theorem not_stuck {i : Nat} {stage : Stage} (at_ : t.stages[i]? = some stage)
    (pending : stage.over = false) : CanGoOn uri t := by
  by_cases free : t.writers = 0
  · cases stage with
    | asking w =>
      refine canGoOn_of_proceed at_ ?_
      rw [proceed, if_neg (not_not.mpr free)]
      split <;> rfl
    | closing =>
      by_cases unshared : t.readers = 0
      · refine canGoOn_of_proceed at_ ?_
        rw [proceed, if_neg (by simp [unshared, free]), Option.isSome_some]
      · obtain ⟨j, other, stands, shares⟩ := exists_of_countP_ne_zero unshared
        exact canGoOn_of_shares stands shares
    | deleting left underway count => exact canGoOn_of_excludes at_ rfl
    | ensured path result => cases pending
    | cleaned count => cases pending
    | _ => exact canGoOn_of_shares at_ rfl
  · obtain ⟨j, other, stands, excludes⟩ := exists_of_countP_ne_zero free
    exact canGoOn_of_excludes stands excludes

/-- **Every call returns.**  A schedule without new calls, from anywhere and with any answers of the
storages, is no longer than there is work; and where it cannot go on, every call has returned. -/
theorem returns_of_run {moves : List Move} (h : t.run uri moves = some u)
    (going_on : ∀ m ∈ moves, m.isCall = false) :
    moves.length ≤ t.work ∧ (¬ CanGoOn uri u → ∀ stage ∈ u.stages, stage.over = true) := by
  have bound := length_le_work h going_on
  refine ⟨by omega, fun stuck stage mem => ?_⟩
  obtain ⟨i, at_⟩ := List.mem_iff_getElem?.mp mem
  by_contra pending
  exact stuck (not_stuck at_ (Bool.eq_false_iff.mpr pending))

end QuerySession.LocationCalls
