import Mathlib.Algebra.BigOperators.Group.List.Basic
import Mathlib.Algebra.GroupWithZero.Nat
import QuerySession.Proofs.Histories
import QuerySession.Proofs.Schedules
import QuerySession.Session.LocationCalls

/-!
# What a step of overlapping calls can do

`LocationCalls.step` is a function with many branches.  This module says once what can come out of
it: a new call, or one call that goes from one stage to another.  Every invariant of overlapping
calls is proved from `Step` and `Shift`, and `LocationCalls.step` is not opened again.

* **One call moves at a time.**  `Step.moved` names the call, its stage before and after, what could
  be seen, and the locations after; all other calls stand where they stood (`getElem?_put`).
* **Counting.**  Most invariants count calls in certain stages.  A move changes a count only through
  the call that moved (`countP_put`, `sum_put`).
* **The history is the schedule.**  Every step adds one happening, so a place in the history is a
  moment of the run (`Reachable.moment`).
-/

namespace QuerySession.LocationCalls

variable {uri : String → String} {t u v : LocationCalls}

/-! ## The stages after a step -/

/-- The calls after a new one: the old ones, and at the end the new one at its beginning. -/
theorem getElem?_join {request : Request} {i : Nat} {stage : Stage}
    (at_ : (t.join request).stages[i]? = some stage) :
    t.stages[i]? = some stage ∨ i = t.stages.length ∧ stage = Stage.first request :=
  getElem?_concat at_

/-- A call that moved stands in its new stage, and the others where they stood. -/
theorem getElem?_put {i : Nat} {old : Stage} (at_ : t.stages[i]? = some old) (stage : Stage)
    (happening : Happening) (l : Locations) (j : Nat) :
    (t.put i stage happening l).stages[j]? = if i = j then some stage else t.stages[j]? :=
  getElem?_set_of_some at_ stage j

@[simp] theorem locations_put (i : Nat) (stage : Stage) (happening : Happening) (l : Locations) :
    (t.put i stage happening l).locations = l := rfl

/-- The calls of some kind after a move: the moved call is not counted as it was, but as it is. -/
theorem countP_put (kind : Stage → Bool) {i : Nat} {old : Stage}
    (at_ : t.stages[i]? = some old) (stage : Stage) (happening : Happening) (l : Locations) :
    (t.put i stage happening l).stages.countP kind + (kind old).toNat =
      t.stages.countP kind + (kind stage).toNat :=
  countP_set_add kind at_ stage

/-- The same for a quantity summed over the calls. -/
theorem sum_put (amount : Stage → Nat) {i : Nat} {old : Stage}
    (at_ : t.stages[i]? = some old) (stage : Stage) (happening : Happening) (l : Locations) :
    ((t.put i stage happening l).stages.map amount).sum + amount old =
      (t.stages.map amount).sum + amount stage := by
  obtain ⟨bound, rfl⟩ := List.getElem?_eq_some_iff.mp at_
  have whole : t.stages = t.stages.take i ++ t.stages[i] :: t.stages.drop (i + 1) := by
    rw [← List.drop_eq_getElem_cons bound, List.take_append_drop]
  have replaced : t.stages.set i stage =
      t.stages.take i ++ stage :: t.stages.drop (i + 1) := List.set_eq_take_cons_drop stage bound
  have before := congrArg (fun stages => (stages.map amount).sum) whole
  simp only [List.map_append, List.map_cons, List.sum_append, List.sum_cons] at before
  simp only [put, replaced, List.map_append, List.map_cons, List.sum_append, List.sum_cons]
  omega

/-! ## What a step can do -/

/-- What one call can do by itself: the stage it leaves, what is seen, the stage it comes to, and
the locations afterwards. -/
inductive Shift (uri : String → String) (t : LocationCalls) (i : Nat) :
    Stage → Happening → Stage → Locations → Prop
  /-- There is no more location after the end. -/
  | refused {w : Workspace} (free : t.writers = 0) (shut : t.locations.closed = true) :
      Shift uri t i (.asking w) (.refused i (t.pathIn w))
        (.leaving (t.pathIn w) (.error (Locations.closedError (t.pathIn w)))) t.locations
  | admitted {w : Workspace} (free : t.writers = 0) (unshut : t.locations.closed = false) :
      Shift uri t i (.asking w) (.admitted i (t.pathIn w)) (.admitted w) t.locations
  /-- The storage is that of the first call that named the location. -/
  | named {w : Workspace} :
      Shift uri t i (.admitted w) (.named i w)
        (.waiting (t.pathIn w) (t.locations.enter (t.pathIn w) w.storage).1.storage)
        (t.locations.enter (t.pathIn w) w.storage).2
  | found {path : StoragePath} {storage : String} (ready : t.locations.contains path = true) :
      Shift uri t i (.waiting path storage) (.found i path) (.leaving path (.ok path)) t.locations
  | createSent {path : StoragePath} {storage : String}
      (missing : t.locations.contains path = false) (turn : t.attemptsAt path = 0) :
      Shift uri t i (.waiting path storage) (.createSent i storage path)
        (.creating path storage) t.locations
  | createFailed {path : StoragePath} {storage : String} (e : Error) :
      Shift uri t i (.creating path storage) (.createAnswered i storage path (.error e))
        (.leaving path (.error (Locations.provisionError path (uri storage) (.error e))))
        t.locations
  | created {path : StoragePath} {storage : String} :
      Shift uri t i (.creating path storage) (.createAnswered i storage path (.ok ()))
        (.created path storage) t.locations
  | probeSent {path : StoragePath} {storage : String} :
      Shift uri t i (.created path storage) (.probeSent i storage path)
        (.probing path storage) t.locations
  | probeFailed {path : StoragePath} {storage : String} (e : Error) :
      Shift uri t i (.probing path storage) (.probeAnswered i storage path (.error e))
        (.leaving path (.error (Locations.provisionError path (uri storage) (.error e))))
        t.locations
  /-- There is nothing, although the storage says that it made the folder. -/
  | nothing {path : StoragePath} {storage : String} :
      Shift uri t i (.probing path storage) (.probeAnswered i storage path (.ok false))
        (.leaving path (.error (Locations.provisionError path (uri storage) .unknown)))
        t.locations
  | settled {path : StoragePath} {storage : String} :
      Shift uri t i (.probing path storage) (.probeAnswered i storage path (.ok true))
        (.leaving path (.ok path)) (t.locations.settle path)
  | returned {path : StoragePath} {result : Except Error StoragePath} :
      Shift uri t i (.leaving path result) (.returned i path result) (.ensured path result)
        t.locations
  | locked (unshared : t.readers = 0) (free : t.writers = 0) :
      Shift uri t i .closing (.locked i) (.deleting t.locations.drain.1 [] 0) t.locations.drain.2
  | deleteSent {left underway : List (StoragePath × String)} {count k : Nat}
      {e : StoragePath × String} (picked : left[k]? = some e) :
      Shift uri t i (.deleting left underway count) (.deleteSent i e.2 e.1 true)
        (.deleting (left.eraseIdx k) (underway ++ [e]) count) t.locations
  | deleteAnswered {left underway : List (StoragePath × String)} {count k : Nat}
      {e : StoragePath × String} (answer : Except Error Bool) (picked : underway[k]? = some e) :
      Shift uri t i (.deleting left underway count) (.deleteAnswered i e.2 e.1 answer)
        (.deleting left (underway.eraseIdx k) (count + (affirms answer).toNat)) t.locations
  | cleaned {count : Nat} :
      Shift uri t i (.deleting [] [] count) (.cleaned i count) (.cleaned count) t.locations

/-- What a step can do, with what is seen of it. -/
inductive Step (uri : String → String) (t : LocationCalls) : Happening → LocationCalls → Prop
  /-- A new call. -/
  | called (request : Request) :
      Step uri t (.called t.stages.length request) (t.join request)
  /-- One call goes on. -/
  | moved {i : Nat} {old new : Stage} {happening : Happening} {l : Locations}
      (at_ : t.stages[i]? = some old) (shift : Shift uri t i old happening new l) :
      Step uri t happening (t.put i new happening l)

/-- A call that goes on by itself makes one of the shifts. -/
theorem Shift.of_proceed (uri : String → String) {i : Nat} {old : Stage} (h : t.proceed i old = some u) :
    ∃ happening new l, Shift uri t i old happening new l ∧ u = t.put i new happening l := by
  cases old with
  | asking w =>
    simp only [proceed] at h
    split at h
    · cases h
    · rename_i free
      split at h
      · rename_i shut
        cases h
        exact ⟨_, _, _, .refused (not_not.mp free) shut, rfl⟩
      · rename_i unshut
        cases h
        exact ⟨_, _, _, .admitted (not_not.mp free) (Bool.eq_false_iff.mpr unshut), rfl⟩
  | admitted w =>
    cases h
    exact ⟨_, _, _, .named, rfl⟩
  | waiting path storage =>
    simp only [proceed] at h
    split at h
    · rename_i ready
      cases h
      exact ⟨_, _, _, .found ready, rfl⟩
    · rename_i missing
      split at h
      · cases h
      · rename_i turn
        cases h
        exact ⟨_, _, _, .createSent (Bool.eq_false_iff.mpr missing) (not_not.mp turn), rfl⟩
  | created path storage =>
    cases h
    exact ⟨_, _, _, .probeSent, rfl⟩
  | leaving path result =>
    cases h
    exact ⟨_, _, _, .returned, rfl⟩
  | closing =>
    simp only [proceed] at h
    split at h
    · cases h
    · rename_i alone
      push Not at alone
      cases h
      exact ⟨_, _, _, .locked alone.1 alone.2, rfl⟩
  | deleting left underway count =>
    cases left <;> cases underway <;> cases h
    exact ⟨_, _, _, .cleaned, rfl⟩
  | creating path storage => cases h
  | probing path storage => cases h
  | ensured path result => cases h
  | cleaned count => cases h

/-- The stage that the answer to a creation leads to is one of two. -/
theorem Shift.of_create {i : Nat} (path : StoragePath) (storage : String)
    (answer : Except Error Unit) :
    Shift uri t i (.creating path storage) (.createAnswered i storage path answer)
      (Stage.afterCreate path storage (uri storage) answer) t.locations := by
  cases answer with
  | ok _ => exact .created
  | error e => exact .createFailed e

/-- The answer to a look settles the location or ends the attempt. -/
theorem Shift.of_probe {i : Nat} (path : StoragePath) (storage : String)
    (answer : Except Error Bool) :
    Shift uri t i (.probing path storage) (.probeAnswered i storage path answer)
      (Stage.afterProbe path (uri storage) answer)
      (if affirms answer then t.locations.settle path else t.locations) := by
  match answer with
  | .ok true => exact .settled
  | .ok false => exact .nothing
  | .error e => exact .probeFailed e

/-- Whether a move is a new call. -/
def Move.isCall : Move → Bool
  | call _ => true
  | _ => false

/-- A move that is no new call is a shift of some call. -/
theorem Shift.of_step {m : Move} (h : t.step uri m = some u) (going_on : m.isCall = false) :
    ∃ i old new happening l, t.stages[i]? = some old ∧ Shift uri t i old happening new l ∧
      u = t.put i new happening l := by
  cases m with
  | call request => cases going_on
  | proceed i =>
    obtain ⟨old, at_, h⟩ := Option.bind_eq_some_iff.mp h
    obtain ⟨happening, new, l, shift, rfl⟩ := Shift.of_proceed uri h
    exact ⟨i, old, new, happening, l, at_, shift, rfl⟩
  | create i answer =>
    simp only [step] at h
    split at h
    · rename_i path storage at_
      cases h
      exact ⟨i, _, _, _, _, at_, .of_create path storage answer, rfl⟩
    · cases h
  | probe i answer =>
    simp only [step] at h
    split at h
    · rename_i path storage at_
      cases h
      exact ⟨i, _, _, _, _, at_, .of_probe path storage answer, rfl⟩
    · cases h
  | send i k =>
    simp only [step] at h
    split at h
    · rename_i left underway count at_
      obtain ⟨e, picked, rfl⟩ := Option.map_eq_some_iff.mp h
      exact ⟨i, _, _, _, _, at_, .deleteSent picked, rfl⟩
    · cases h
  | delete i k answer =>
    simp only [step] at h
    split at h
    · rename_i left underway count at_
      obtain ⟨e, picked, rfl⟩ := Option.map_eq_some_iff.mp h
      exact ⟨i, _, _, _, _, at_, .deleteAnswered answer picked, rfl⟩
    · cases h

/-- **What can come out of a step.** -/
theorem Step.of_step {m : Move} (h : t.step uri m = some u) :
    ∃ happening, Step uri t happening u := by
  cases m with
  | call request =>
    cases h
    exact ⟨_, .called request⟩
  | _ =>
    obtain ⟨i, old, new, happening, l, at_, shift, rfl⟩ := Shift.of_step h rfl
    exact ⟨happening, .moved at_ shift⟩

/-- A step adds to the history what is seen of it. -/
theorem Step.history_eq {happening : Happening} (step : Step uri t happening u) :
    u.history = t.history ++ [happening] := by
  cases step <;> rfl

/-- What is seen of a shift belongs to the call that makes it. -/
theorem Shift.caller_eq {i : Nat} {old new : Stage} {happening : Happening} {l : Locations}
    (shift : Shift uri t i old happening new l) : happening.caller = i := by
  cases shift <;> rfl

/-! ## Runs -/

/-- The states of the locations of some session, from their making on. -/
def Reachable (uri : String → String) (t : LocationCalls) : Prop :=
  ∃ sessionId spans moves,
    (idle (Locations.forSession sessionId spans)).run uri moves = some t

theorem Reachable.run (h : Reachable uri t) {moves : List Move} (later : t.run uri moves = some u) :
    Reachable uri u := by
  obtain ⟨sessionId, spans, earlier, reached⟩ := h
  exact ⟨sessionId, spans, earlier ++ moves, Schedule.append reached later⟩

theorem Reachable.next (h : Reachable uri t) {m : Move} (one : t.step uri m = some u) :
    Reachable uri u := by
  exact h.run (Schedule.cons one List.foldlM_nil)

/-- **Invariants of overlapping calls.**  What holds at the start and survives every step that can
be taken from a reachable state holds in every reachable state. -/
@[elab_as_elim]
theorem Reachable.induction {motive : (t : LocationCalls) → Reachable uri t → Prop}
    (start : ∀ sessionId spans h, motive (idle (Locations.forSession sessionId spans)) h)
    (step : ∀ {t u : LocationCalls} {happening : Happening} (before : Reachable uri t)
      (after : Reachable uri u), Step uri t happening u → motive t before → motive u after)
    {t : LocationCalls} (h : Reachable uri t) : motive t h := by
  obtain ⟨sessionId, spans, moves, reached⟩ := id h
  refine Schedule.induction (motive := fun _ t => ∀ h, motive t h) (start sessionId spans) ?_
    reached h
  intro moves m t u before one ih after
  obtain ⟨happening, taken⟩ := Step.of_step one
  have earlier : Reachable uri t := ⟨sessionId, spans, moves, before⟩
  exact step earlier after taken (ih earlier)

/-- **A place in the history is a moment of the run.**  What happened there was a step, taken from
a reachable state whose history is what came before it. -/
theorem Reachable.moment (h : Reachable uri t) {before after : List Happening}
    {happening : Happening} (split : t.history = before ++ happening :: after) :
    ∃ u v moves, Reachable uri u ∧ u.history = before ∧ Step uri u happening v ∧
      Reachable uri v ∧ v.run uri moves = some t := by
  obtain ⟨sessionId, spans, moves, reached⟩ := h
  induction moves using List.reverseRecOn generalizing t after with
  | nil =>
    cases reached
    cases before <;> cases split
  | append_singleton moves m ih =>
    obtain ⟨u, earlier, one⟩ := Schedule.concat_iff.mp reached
    have reachable : Reachable uri u := ⟨sessionId, spans, moves, earlier⟩
    obtain ⟨seen, taken⟩ := Step.of_step one
    rw [taken.history_eq] at split
    rcases List.eq_nil_or_concat after with rfl | ⟨front, final, rfl⟩
    · -- It is the last step.
      obtain ⟨same, eq⟩ := List.append_inj' split rfl
      cases eq
      exact ⟨u, t, [], reachable, same, taken, reachable.next one, rfl⟩
    · -- It came before the last step.
      have regroup : u.history ++ [seen] = (before ++ happening :: front) ++ [final] := by
        simpa using split
      obtain ⟨same, -⟩ := List.append_inj' regroup rfl
      obtain ⟨a, b, between, ra, ha, sab, rb, hb⟩ := ih same earlier
      exact ⟨a, b, between ++ [m], ra, ha, sab, rb, Schedule.concat_iff.mpr ⟨u, hb, one⟩⟩

/-- What happened later was a step as well, taken from a state that had the earlier in its
history. -/
theorem Reachable.moment_since (h : Reachable uri t) {before after : List Happening}
    {earlier happening : Happening} (split : t.history = before ++ earlier :: after)
    (mem : happening ∈ after) :
    ∃ u v, Reachable uri u ∧ earlier ∈ u.history ∧ Step uri u happening v := by
  obtain ⟨between, rest, rfl⟩ := List.append_of_mem mem
  have regroup : t.history = (before ++ earlier :: between) ++ happening :: rest := by
    rw [split]
    simp
  obtain ⟨u, v, moves, reached, past, taken, -, -⟩ := h.moment regroup
  refine ⟨u, v, reached, ?_, taken⟩
  rw [past]
  simp

/-! ## Trying things out -/

/-- A workspace to try things out with. -/
def scratch : Workspace := ⟨"w1", "scratch", "m1", ⟨"memory", "", ["tmp"]⟩⟩

/-- The locations of a session to try things out with. -/
def fresh : LocationCalls := idle (Locations.forSession "s" [])

/-- What is reached in a trial is reached. -/
theorem Reachable.of_trial (moves : List Move) (h : fresh.run uri moves = some t) :
    Reachable uri t := ⟨"s", [], moves, h⟩

theorem Reachable.fresh : Reachable uri fresh := .of_trial [] rfl

end QuerySession.LocationCalls
