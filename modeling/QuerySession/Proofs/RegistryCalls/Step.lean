import QuerySession.Proofs.Histories
import QuerySession.Proofs.Schedules
import QuerySession.Session.RegistryCalls

/-!
# What a step of overlapping calls on a registry can do

`RegistryCalls.step` has a branch for every stage of a call.  This module says once what can come
out of it: a new call, a new candidate, or one call that goes from one stage to another.  Everything
about overlapping calls on a registry is proved from `Step` and `Shift`, by `Reached.induction`.
-/

namespace QuerySession

/-! ### The providers of a registry -/

namespace Registry

@[simp] theorem provider?_register (r : Registry) (kind other : ExtensionKind) (c : Candidate) :
    (r.register kind c).provider? other = r.provider? other := by
  cases kind <;> cases other <;> rfl

@[simp] theorem candidates_register (r : Registry) (kind other : ExtensionKind) (c : Candidate) :
    (r.register kind c).candidates other =
      r.candidates other ++ if kind = other then [c] else [] := by
  cases kind <;> cases other <;> simp [register, candidates]

@[simp] theorem provider?_keep (r : Registry) (kind other : ExtensionKind) (p : ProviderId) :
    (r.keep kind p).provider? other = if kind = other then some p else r.provider? other := by
  cases kind <;> cases other <;> rfl

@[simp] theorem candidates_keep (r : Registry) (kind other : ExtensionKind) (p : ProviderId) :
    (r.keep kind p).candidates other = r.candidates other := by
  cases kind <;> cases other <;> rfl

end Registry

namespace RegistryCalls

variable {offered : ExtensionKind → List Candidate} {t u v : RegistryCalls}

/-! ### The stages after a step -/

/-- The calls after a new one: the old ones, and at the end the new one at its beginning. -/
theorem getElem?_join {request : Request} {i : Nat} {stage : Stage}
    (at_ : (t.join request).stages[i]? = some stage) :
    t.stages[i]? = some stage ∨ i = t.stages.length ∧ stage = Stage.first request :=
  getElem?_concat at_

/-- A call that moved stands in its new stage, and the others where they stood. -/
theorem getElem?_put {i : Nat} {old : Stage} (at_ : t.stages[i]? = some old) (stage : Stage)
    (happening : Happening) (j : Nat) :
    (t.put i stage happening).stages[j]? = if i = j then some stage else t.stages[j]? :=
  getElem?_set_of_some at_ stage j

/-- The calls of some kind after a move: the moved call is not counted as it was, but as it is. -/
theorem countP_put (kind : Stage → Bool) {i : Nat} {old : Stage} (at_ : t.stages[i]? = some old)
    (stage : Stage) (happening : Happening) :
    (t.put i stage happening).stages.countP kind + (kind old).toNat =
      t.stages.countP kind + (kind stage).toNat :=
  countP_set_add kind at_ stage

/-! ### What a step can do -/

/-- What one call can do by itself: the stage it leaves, what is seen, and the stage it comes to. -/
inductive Shift (t : RegistryCalls) (i : Nat) : Stage → Happening → Stage → Prop
  | found {aim : Aim} {settings : Settings} {p : ProviderId}
      (full : t.registry.provider? aim.kind = some p) :
      Shift t i (.asking aim settings) (.found i aim.kind p) (.after settings aim (.ok p))
  | unmatched {aim : Aim} {settings : Settings} {message : String}
      (empty : t.registry.provider? aim.kind = none) (turn : t.setters aim.kind = 0)
      (chosen : t.select aim.kind settings = .error message) :
      Shift t i (.asking aim settings) (.unmatched i aim.kind settings message)
        (.after settings aim (.error (unmatchedError aim.kind settings message)))
  | made {aim : Aim} {settings : Settings} {name : String} {factory : Factory} {p : ProviderId}
      (empty : t.registry.provider? aim.kind = none) (turn : t.setters aim.kind = 0)
      (chosen : t.select aim.kind settings = .ok (name, factory)) (new : p ∉ made t.history) :
      Shift t i (.asking aim settings) (.made i aim.kind settings name factory p)
        (.setting aim settings name p)
  | setUp {aim : Aim} {settings : Settings} {name : String} {p : ProviderId}
      (answer : Except Error Unit) :
      Shift t i (.setting aim settings name p) (.setUp i aim.kind p answer)
        (.after settings aim (setUpResult aim.kind settings name p answer))
  | passed {kind : ExtensionKind} (empty : t.registry.provider? kind = none) :
      Shift t i (.closing kind) (.passed i kind) (.afterClose kind)
  | closeSent {kind : ExtensionKind} {p : ProviderId} (full : t.registry.provider? kind = some p) :
      Shift t i (.closing kind) (.closeSent i kind p) (.releasing kind p)
  | closeAnswered {kind : ExtensionKind} {p : ProviderId} (answer : Except Error Unit) :
      Shift t i (.releasing kind p) (.closeAnswered i kind p answer) (.afterClose kind)

/-- What a step can do, with what is seen of it. -/
inductive Step (t : RegistryCalls) : Happening → RegistryCalls → Prop
  /-- A new call. -/
  | called (request : Request) : Step t (.called t.stages.length request) (t.join request)
  /-- A new candidate. -/
  | registered (kind : ExtensionKind) (c : Candidate) :
      Step t (.registered kind c) (t.enlist kind c)
  /-- One call goes on. -/
  | moved {i : Nat} {old new : Stage} {happening : Happening} (at_ : t.stages[i]? = some old)
      (shift : Shift t i old happening new) : Step t happening (t.put i new happening)

/-- A call that goes on by itself makes one of the shifts. -/
theorem Shift.of_proceed {i : Nat} {old : Stage} (h : t.proceed i old = some u) :
    ∃ happening new, Shift t i old happening new ∧ u = t.put i new happening := by
  cases old with
  | asking aim settings =>
    simp only [proceed] at h
    split at h
    · rename_i p full
      cases h
      exact ⟨_, _, .found full, rfl⟩
    · rename_i empty
      split at h
      · cases h
      · rename_i turn
        split at h
        · rename_i message chosen
          cases h
          exact ⟨_, _, .unmatched empty (not_not.mp turn) chosen, rfl⟩
        · cases h
  | closing kind =>
    simp only [proceed] at h
    split at h
    · rename_i p full
      cases h
      exact ⟨_, _, .closeSent full, rfl⟩
    · rename_i empty
      cases h
      exact ⟨_, _, .passed empty, rfl⟩
  | _ => cases h

/-- A call that makes a provider begins to set it up. -/
theorem Shift.of_make {i : Nat} {p : ProviderId} {old : Stage} (h : t.make i p old = some u) :
    ∃ happening new, Shift t i old happening new ∧ u = t.put i new happening := by
  cases old with
  | asking aim settings =>
    simp only [make] at h
    split at h
    · cases h
    · rename_i free
      push Not at free
      split at h
      · cases h
      · rename_i name factory chosen
        cases h
        exact ⟨_, _, .made free.1 free.2.1 chosen free.2.2, rfl⟩
  | _ => cases h

/-- A call that hears from its provider goes on. -/
theorem Shift.of_hear {i : Nat} {answer : Except Error Unit} {old : Stage}
    (h : t.hear i answer old = some u) :
    ∃ happening new, Shift t i old happening new ∧ u = t.put i new happening := by
  cases old with
  | setting aim settings name p =>
    cases h
    exact ⟨_, _, .setUp answer, rfl⟩
  | releasing kind p =>
    cases h
    exact ⟨_, _, .closeAnswered answer, rfl⟩
  | _ => cases h

/-- **What can come out of a step.** -/
theorem Step.of_step {m : Move} (h : t.step m = some u) : ∃ happening, Step t happening u := by
  -- A move of one call is a shift of the stage in which it stands.
  have moved {i : Nat} {go : Stage → Option RegistryCalls} (h : t.stages[i]?.bind go = some u)
      (shifts : ∀ old, go old = some u →
        ∃ happening new, Shift t i old happening new ∧ u = t.put i new happening) :
      ∃ happening, Step t happening u := by
    obtain ⟨old, at_, h⟩ := Option.bind_eq_some_iff.mp h
    obtain ⟨happening, new, shift, rfl⟩ := shifts old h
    exact ⟨happening, .moved at_ shift⟩
  cases m with
  | call request =>
    cases h
    exact ⟨_, .called request⟩
  | register kind c =>
    cases h
    exact ⟨_, .registered kind c⟩
  | proceed i => exact moved h fun _ => Shift.of_proceed
  | make i p => exact moved h fun _ => Shift.of_make
  | answer i answer => exact moved h fun _ => Shift.of_hear

/-- A step adds to the history what is seen of it. -/
theorem Step.history_eq {happening : Happening} (step : Step t happening u) :
    u.history = t.history ++ [happening] := by
  cases step <;> rfl

/-- What becomes of the registry can be seen. -/
theorem Step.registry_eq {happening : Happening} (step : Step t happening u) :
    u.registry = happening.effect t.registry := by
  cases step <;> rfl

/-- What is seen of a shift belongs to the call that makes it. -/
theorem Shift.caller?_eq {i : Nat} {old new : Stage} {happening : Happening}
    (shift : Shift t i old happening new) : happening.caller? = some i := by
  cases shift <;> rfl

/-! ### Runs -/

/-- The states of the calls on some registry, with the candidates that it was opened with. -/
def Reached (offered : ExtensionKind → List Candidate) (t : RegistryCalls) : Prop :=
  ∃ spans moves, (opening offered spans).run moves = some t

/-- **Invariants of overlapping calls on a registry.**  What holds at the start and survives every
step that can be taken from a state that is reached holds in every such state. -/
@[elab_as_elim]
theorem Reached.induction {motive : (t : RegistryCalls) → Reached offered t → Prop}
    (start : ∀ spans h, motive (opening offered spans) h)
    (step : ∀ {t u : RegistryCalls} {happening : Happening} (before : Reached offered t)
      (after : Reached offered u), Step t happening u → motive t before → motive u after)
    {t : RegistryCalls} (h : Reached offered t) : motive t h := by
  obtain ⟨spans, moves, reached⟩ := id h
  refine Schedule.induction (motive := fun _ t => ∀ h, motive t h) (start spans) ?_ reached h
  intro moves m t u before one ih after
  obtain ⟨happening, taken⟩ := Step.of_step one
  have earlier : Reached offered t := ⟨spans, moves, before⟩
  exact step earlier after taken (ih earlier)

end RegistryCalls

end QuerySession
