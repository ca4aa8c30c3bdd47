import QuerySession.Proofs.Registrations.Agreement
import QuerySession.Session.Removals

/-!
# What a step of overlapping removals can do

`Removals.step` has a branch for every stage of a removal.  This module says once what can come out
of it: a step of the other calls, a new removal, or one removal that comes further.  Every
invariant of removals is proved from `Step` and `Shift`.

* **One removal moves at a time.**  The others stay where they were (`getElem?_put`).
* **Registrations do not mind.**  Where the aliases come from is known as without removals, which
  only take aliases away (`Reached.served`).
* **The story of a removal** is told by how far it has come (`Reached.story`).
-/

namespace QuerySession.Removals

variable {uri : String → String} {o p : Removals} {moves : List Move}
  {placed : List Registrations.Move}

/-! ## What a step can do -/

/-- What a removal can do by itself: how far it had come, what is seen, how far it has come, and the
tables afterwards. -/
inductive Shift (o : Removals) (i : Nat) : Removal → Happening → Removal → Tables → Prop
  /-- The name has no alias, and there is nothing to do. -/
  | missed {w : Workspace} {name : String} (unknown : o.registrations.tables.resolve? name = none) :
      Shift o i (.called w name) (.missed i name) (.removed name (.ok ())) o.registrations.tables
  | dropSent {w : Workspace} {name tableAlias : String}
      (known : o.registrations.tables.resolve? name = some tableAlias) :
      Shift o i (.called w name) (.dropSent i w.key name tableAlias) (.dropping w name tableAlias)
        o.registrations.tables
  | dropFailed {w : Workspace} {name tableAlias : String} (e : Error) :
      Shift o i (.dropping w name tableAlias) (.dropAnswered i w.key tableAlias (.error e))
        (.removed name (.error e)) o.registrations.tables
  | dropped {w : Workspace} {name tableAlias : String} :
      Shift o i (.dropping w name tableAlias) (.dropAnswered i w.key tableAlias (.ok ()))
        (.dropped w name tableAlias) o.registrations.tables
  | forgot {w : Workspace} {name tableAlias : String} :
      Shift o i (.dropped w name tableAlias) (.forgot i name (o.registrations.tables.resolve? name))
        (.removed name (.ok ())) (o.registrations.tables.remove name).2

/-- The step of the other calls that a move is, if it is one. -/
def Move.registrations? : Move → Option Registrations.Move
  | registrations m => some m
  | _ => none

/-- What a step can do, by the step of the other calls that it is. -/
inductive Step (uri : String → String) (o : Removals) : Option Registrations.Move → Removals → Prop
  | registrations {m : Registrations.Move} {d : Registrations}
      (one : o.registrations.step uri m = some d) :
      Step uri o (some m) { o with registrations := d }
  | called (w : Workspace) (name : String) :
      Step uri o none { o with removals := o.removals ++ [.called w name] }
  | moved {i : Nat} {old new : Removal} {happening : Happening} {tables : Tables}
      (at_ : o.removals[i]? = some old) (shift : Shift o i old happening new tables) :
      Step uri o none (o.put i new happening tables)

/-- **What can come out of a step.** -/
theorem Step.of_step {m : Move} (h : o.step uri m = some p) : Step uri o m.registrations? p := by
  cases m with
  | registrations m =>
    obtain ⟨d, one, rfl⟩ := Option.map_eq_some_iff.mp h
    exact .registrations one
  | remove w name =>
    cases h
    exact .called w name
  | look i =>
    simp only [step] at h
    split at h
    · rename_i at_
      split at h
      · rename_i unknown
        cases h
        exact .moved at_ (.missed unknown)
      · rename_i known
        cases h
        exact .moved at_ (.dropSent known)
    · cases h
  | answer i answer =>
    simp only [step] at h
    split at h
    · rename_i at_
      split at h
      · cases h
        exact .moved at_ (.dropFailed _)
      · cases h
        exact .moved at_ .dropped
    · cases h
  | forget i =>
    simp only [step] at h
    split at h
    · rename_i at_
      cases h
      exact .moved at_ .forgot
    · cases h

/-- A removal that came further, and the others where they were. -/
theorem getElem?_put {i : Nat} {old : Removal} (at_ : o.removals[i]? = some old)
    (removal : Removal) (happening : Happening) (tables : Tables) (j : Nat) :
    (o.put i removal happening tables).removals[j]? =
      if i = j then some removal else o.removals[j]? :=
  getElem?_set_of_some at_ removal j

/-- What is seen of a removal is its own. -/
theorem Shift.caller_eq {i : Nat} {old new : Removal} {happening : Happening} {tables : Tables}
    (shift : Shift o i old happening new tables) : happening.caller = i := by
  cases shift <;> rfl

/-- A step only adds to what happened to the locations, whose id stays. -/
theorem Step.passed_eq {m : Option Registrations.Move} (taken : Step uri o m p) :
    p.sessionId = o.sessionId ∧ ∃ later, p.passed = o.passed ++ later := by
  cases taken with
  | registrations one =>
    refine ⟨?_, Registrations.history_of_step one⟩
    rcases Registrations.calls_of_step one with same | ⟨m', go⟩
    · exact congrArg (·.locations.sessionId) same
    · obtain ⟨happening, taken⟩ := LocationCalls.Step.of_step go
      exact taken.sessionId_eq
  | called w name => exact ⟨rfl, [], (List.append_nil _).symm⟩
  | moved at_ shift => exact ⟨rfl, [], (List.append_nil _).symm⟩

/-! ## Schedules from the beginning -/

/-- A schedule leads from the making of some session to `o`. -/
def Reached (uri : String → String) (moves : List Move) (o : Removals) : Prop :=
  ∃ r id credentials, (ofSession (Session.ofRequest r id credentials)).run uri moves = some o

/-- The steps of the other calls in a schedule. -/
def registrationMoves (moves : List Move) : List Registrations.Move :=
  moves.filterMap Move.registrations?

theorem registrationMoves_concat (moves : List Move) (m : Move) :
    registrationMoves (moves ++ [m]) = registrationMoves moves ++ m.registrations?.toList := by
  unfold registrationMoves
  rw [List.filterMap_append]
  cases m <;> rfl

/-- **Invariants of a session with removals**, with the steps of the other calls.  What holds at the
start and survives every step holds wherever a schedule leads. -/
theorem Reached.induction {motive : List Registrations.Move → Removals → Prop}
    (start : ∀ r id credentials, motive [] (ofSession (Session.ofRequest r id credentials)))
    (step : ∀ {moves : List Move} {m : Option Registrations.Move} {o p : Removals},
      Reached uri moves o → Step uri o m p → motive (registrationMoves moves) o →
        motive (registrationMoves moves ++ m.toList) p)
    (h : Reached uri moves o) : motive (registrationMoves moves) o := by
  obtain ⟨r, id, credentials, reached⟩ := h
  refine Schedule.induction (motive := fun moves o => motive (registrationMoves moves) o)
    (start r id credentials) ?_ reached
  intro moves m o p earlier one before
  rw [registrationMoves_concat]
  exact step ⟨r, id, credentials, earlier⟩ (.of_step one) before

/-- The locations of a session with removals see a run of calls on them. -/
theorem Reached.calls (h : Reached uri moves o) :
    LocationCalls.Reachable uri o.registrations.calls := by
  refine h.induction (motive := fun _ o => LocationCalls.Reachable uri o.registrations.calls) ?_ ?_
  · intro r id credentials
    exact ⟨id, _, [], rfl⟩
  · intro moves m o p _ taken reachable
    cases taken with
    | registrations one =>
      rcases Registrations.calls_of_step one with same | ⟨m', go⟩
      · exact same ▸ reachable
      · exact reachable.next go
    | called w name => exact reachable
    | moved at_ shift => exact reachable

/-- **Where the aliases come from**, also with removals: they only take aliases away. -/
theorem Reached.served (h : Reached uri moves o) :
    Registrations.Served (Registrations.orders (registrationMoves moves)) o.registrations := by
  refine h.induction
    (motive := fun placed o => Registrations.Served (Registrations.orders placed) o.registrations)
    Registrations.served_ofSession ?_
  intro moves m o p reached taken served
  rw [Registrations.orders_append]
  cases taken with
  | registrations one => exact served.step reached.calls one
  | called w name => exact (List.append_nil _).symm ▸ served
  | moved at_ shift =>
    rw [show Registrations.orders (Option.toList none) = [] from rfl, List.append_nil]
    refine ⟨served.length_eq, served.pending, served.made, fun key tableAlias known => ?_⟩
    cases shift with
    | forgot =>
      simp only [put, Tables.find?_remove] at known
      split at known
      · cases known
      · exact served.giver key tableAlias known
    | _ => exact served.giver key tableAlias known

/-! ## The story of a removal -/

/-- What a removal did, in its own order. -/
def own (i : Nat) (h : List Happening) : List Happening := h.filter fun e => e.caller = i

theorem own_concat (i : Nat) (h : List Happening) (e : Happening) :
    own i (h ++ [e]) = own i h ++ if e.caller = i then [e] else [] := by
  unfold own
  rw [List.filter_append]
  by_cases mine : e.caller = i
  · rw [if_pos mine, List.filter_singleton, decide_eq_true mine, cond_true]
  · rw [if_neg mine, List.filter_singleton, decide_eq_false mine, cond_false]

theorem mem_own_iff {i : Nat} {e : Happening} {h : List Happening} :
    e ∈ own i h ↔ e ∈ h ∧ e.caller = i := by
  unfold own
  rw [List.mem_filter, decide_eq_true_eq]

/-- What a removal did so far, by how far it has come. -/
def Story (i : Nat) (h : List Happening) : Removal → Prop
  | .called _ _ => h = []
  | .dropping w name tableAlias => h = [.dropSent i w.key name tableAlias]
  | .dropped w name tableAlias =>
    h = [.dropSent i w.key name tableAlias, .dropAnswered i w.key tableAlias (.ok ())]
  | .removed name (.ok ()) => h = [.missed i name] ∨ ∃ key tableAlias taken,
      h = [.dropSent i key name tableAlias, .dropAnswered i key tableAlias (.ok ()),
        .forgot i name taken]
  | .removed name (.error e) => ∃ key tableAlias,
      h = [.dropSent i key name tableAlias, .dropAnswered i key tableAlias (.error e)]

/-- The story of a removal that goes on. -/
theorem Shift.story {i : Nat} {old new : Removal} {happening : Happening} {tables : Tables}
    (shift : Shift o i old happening new tables) {h : List Happening} (story : Story i h old) :
    Story i (h ++ [happening]) new := by
  cases shift with
  | missed unknown =>
    cases story
    exact .inl rfl
  | dropSent known =>
    cases story
    rfl
  | dropFailed e =>
    cases story
    exact ⟨_, _, rfl⟩
  | dropped =>
    cases story
    rfl
  | forgot =>
    cases story
    exact .inr ⟨_, _, _, rfl⟩

/-- **The story of a removal.**  Nothing happens to removals that were not made, and what one did
so far is told by how far it has come. -/
theorem Reached.story (h : Reached uri moves o) :
    (∀ e ∈ o.history, e.caller < o.removals.length) ∧
      ∀ (i : Nat) (removal : Removal), o.removals[i]? = some removal →
        Story i (own i o.history) removal := by
  refine h.induction (motive := fun _ o => (∀ e ∈ o.history, e.caller < o.removals.length) ∧
    ∀ (i : Nat) (removal : Removal), o.removals[i]? = some removal →
      Story i (own i o.history) removal) ?_ ?_
  · intro r id credentials
    refine ⟨fun e mem => ?_, fun i removal at_ => ?_⟩
    · cases mem
    · cases at_
  · rintro moves m o p - taken ⟨made, story⟩
    cases taken with
    | registrations one => exact ⟨made, story⟩
    | called w name =>
      constructor
      · intro e mem
        rw [List.length_append]
        exact Nat.lt_add_right 1 (made e mem)
      · intro i removal at_
        rcases getElem?_concat at_ with old | ⟨rfl, rfl⟩
        · exact story i removal old
        · -- Nothing has happened to the new one.
          refine List.filter_eq_nil_iff.mpr fun e mem mine => ?_
          have earlier := made e mem
          rw [of_decide_eq_true mine] at earlier
          exact Nat.lt_irrefl _ earlier
    | @moved j old new happening tables at_ shift =>
      constructor
      · intro e mem
        rw [put, List.length_set]
        rcases List.mem_append.mp mem with earlier | last
        · exact made e earlier
        · rw [List.mem_singleton.mp last, shift.caller_eq]
          exact (List.getElem?_eq_some_iff.mp at_).1
      · intro i removal there
        rw [getElem?_put at_] at there
        rw [put, own_concat, shift.caller_eq]
        split at there
        · rename_i here
          cases here
          cases there
          rw [if_pos rfl]
          exact shift.story (story j old at_)
        · rename_i other
          rw [if_neg other, List.append_nil]
          exact story i removal there

end QuerySession.Removals
