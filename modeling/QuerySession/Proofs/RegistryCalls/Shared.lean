import Mathlib.Data.Fintype.EquivFin
import QuerySession.Proofs.RegistryCalls.Closing

/-!
# All calls share the providers

What can be relied on when many calls use a registry at the same time: there is one provider of each
kind, whoever needs one gets this one, and it can be closed by whoever closes the registry.  A
failure belongs to the call that it happened to.  The next one tries again, with its own settings and
the candidates that are registered by then.

## Main Definitions

* `Stage.has` — the providers that a call has, or has returned
* `RegistryCalls.Can`, `RegistryCalls.GoesOn` — what a call can do, and that it can go on
* `RegistryCalls.Shared` — what can be relied on

## Main Results

* `Reached.shared` — the calls on a registry share its providers
-/

namespace QuerySession.RegistryCalls

variable {offered : ExtensionKind → List Candidate} {t u : RegistryCalls} {i : Nat}
  {kind : ExtensionKind} {p : ProviderId}

/-! ### The providers that calls have -/

/-- The providers that a call need not look for any more. -/
def Aim.has : Aim → List (ExtensionKind × ProviderId)
  | contextHandler known _ => [(.authenticator, known)]
  | get _ | authenticator _ => []

/-- The providers that a call has, or has returned. -/
def Stage.has : Stage → List (ExtensionKind × ProviderId)
  | asking aim _ | setting aim .. => aim.has
  | got kind (.ok p) => [(kind, p)]
  | established (.ok e) =>
    (.authenticator, e.authenticator) :: e.contextHandler.toList.map (.contextHandler, ·)
  | releasing kind p => [(kind, p)]
  | got _ (.error _) | established (.error _) | closing _ | closed => []

/-- What a call has when its need has a result: what it had before, and the result. -/
theorem Stage.has_after {settings : Settings} {aim : Aim} {result : Except Error ProviderId}
    (mem : (kind, p) ∈ (after settings aim result).has) :
    (kind, p) ∈ aim.has ∨ kind = aim.kind ∧ result = .ok p := by
  cases result with
  | error e => cases aim <;> cases mem
  | ok q =>
    cases aim with
    | contextHandler known spans =>
      rcases List.mem_cons.mp mem with had | new
      · exact .inl (List.mem_singleton.mpr had)
      · cases List.mem_singleton.mp new
        exact .inr ⟨rfl, rfl⟩
    | _ =>
      cases List.mem_singleton.mp mem
      exact .inr ⟨rfl, rfl⟩

theorem Stage.has_afterClose (closing : ExtensionKind) : (afterClose closing).has = [] := by
  cases closing <;> rfl

theorem Stage.has_first (request : Request) : (first request).has = [] := by cases request <;> rfl

/-- What comes of a setup is a provider only if it succeeded. -/
theorem setUpResult_eq_ok {settings : Settings} {name : String} {q : ProviderId}
    {answer : Except Error Unit} (ok : setUpResult kind settings name q answer = .ok p) :
    q = p ∧ answer = .ok () := by
  cases answer with
  | ok _ =>
    cases ok
    exact ⟨rfl, rfl⟩
  | error e => cases ok

/-- Whoever comes to have a provider comes to have one that was set up. -/
theorem Shift.has (reached : Reached offered t) {old new : Stage} {e : Happening}
    (shift : Shift t i old e new) (mem : (kind, p) ∈ new.has) :
    (kind, p) ∈ old.has ∨ p ∈ ready kind (t.history ++ [e]) := by
  cases shift with
  | found full =>
    refine (Stage.has_after mem).imp_right ?_
    rintro ⟨rfl, same⟩
    cases same
    exact mem_ready_append (reached.provider?_eq_some_iff.mp full) _
  | unmatched empty turn chosen =>
    refine (Stage.has_after mem).imp_right ?_
    rintro ⟨-, same⟩
    cases same
  | made empty turn chosen new => exact .inl mem
  | setUp answer =>
    refine (Stage.has_after mem).imp_right ?_
    rintro ⟨rfl, same⟩
    obtain ⟨rfl, rfl⟩ := setUpResult_eq_ok same
    exact mem_ready_of_setUp (List.mem_append_right _ (List.mem_singleton_self _))
  | closeSent full =>
    cases List.mem_singleton.mp mem
    exact .inr (mem_ready_append (reached.provider?_eq_some_iff.mp full) _)
  | passed empty =>
    rw [Stage.has_afterClose] at mem
    cases mem
  | closeAnswered answer =>
    rw [Stage.has_afterClose] at mem
    cases mem

/-- Whoever has a provider has one that was set up. -/
theorem Reached.ready_of_has (h : Reached offered t) {stage : Stage}
    (at_ : t.stages[i]? = some stage) (mem : (kind, p) ∈ stage.has) :
    p ∈ ready kind t.history := by
  induction h using Reached.induction generalizing i stage with
  | start spans h => cases at_
  | @step t u e before after taken ih =>
    rw [taken.history_eq]
    cases taken with
    | called request =>
      rcases getElem?_join at_ with earlier | ⟨-, rfl⟩
      · exact mem_ready_append (ih earlier mem) _
      · rw [Stage.has_first] at mem
        cases mem
    | registered k c => exact mem_ready_append (ih at_ mem) _
    | @moved j old new _ atJ shift =>
      rw [getElem?_put atJ] at at_
      split at at_
      · cases at_
        rcases shift.has before mem with had | ready
        · exact mem_ready_append (ih atJ had) _
        · exact ready
      · exact mem_ready_append (ih at_ mem) _

/-- What became of a need is known to the registry, if it was a provider. -/
theorem Reached.provider?_of_outcome (h : Reached offered t) {settings : Settings} {o : Outcome}
    (seen : o.trace i kind settings ⊆ t.history) (ok : o.result kind settings = .ok p) :
    t.registry.provider? kind = some p := by
  apply h.provider?_eq_some_iff.mpr
  cases o with
  | found q =>
    cases ok
    exact h.ready_of_met (seen (List.mem_singleton_self _)) (.inl rfl)
  | unmatched message => cases ok
  | tried name factory q answer =>
    obtain ⟨rfl, rfl⟩ := setUpResult_eq_ok ok
    exact mem_ready_of_setUp (seen (List.mem_cons_of_mem _ (List.mem_singleton_self _)))

/-! ### Calls that go on -/

/-- Call `i` can make a step of which `e` is seen. -/
def Can (t : RegistryCalls) (i : Nat) (e : Happening) : Prop :=
  ∃ m u, t.step m = some u ∧ Step t e u ∧ e.caller? = some i

/-- Call `i` can make a step. -/
def GoesOn (t : RegistryCalls) (i : Nat) : Prop := ∃ e, t.Can i e

/-- Whether a call has returned. -/
def Stage.returned : Stage → Bool
  | got .. | established _ | closed => true
  | asking .. | setting .. | closing _ | releasing .. => false

/-- A call can make a shift that is the step of some move. -/
theorem Can.of_shift {old new : Stage} {e : Happening} (at_ : t.stages[i]? = some old)
    (shift : Shift t i old e new) {m : Move} (one : t.step m = some (t.put i new e)) :
    t.Can i e := ⟨m, _, one, .moved at_ shift, shift.caller?_eq⟩

/-- A factory can always make a new provider. -/
theorem exists_not_made (h : List Happening) : ∃ p, p ∉ made h := by
  obtain ⟨n, new⟩ := Infinite.exists_notMem_finset ((made h).map ProviderId.number).toFinset
  refine ⟨⟨n⟩, fun mem => new ?_⟩
  exact List.mem_toFinset.mpr (List.mem_map.mpr ⟨_, mem, rfl⟩)

/-- A call that is setting up a provider goes on when the provider answers. -/
theorem GoesOn.of_sets {stage : Stage} (at_ : t.stages[i]? = some stage)
    (sets : stage.sets kind = true) : t.GoesOn i := by
  cases stage with
  | setting aim settings name p =>
    refine ⟨_, .of_shift (m := .answer i (.ok ())) at_ (.setUp (.ok ())) ?_⟩
    rw [step, at_]
    rfl
  | _ => cases sets

section Asking

variable {aim : Aim} {settings : Settings}

/-- A call that needs a provider finds the one that there is. -/
theorem Can.found (at_ : t.stages[i]? = some (.asking aim settings))
    (full : t.registry.provider? aim.kind = some p) : t.Can i (.found i aim.kind p) := by
  refine .of_shift (m := .proceed i) at_ (.found full) ?_
  simp [step, at_, proceed, full]

/-- What a call does that needs a provider when there is none, by the candidates: it has none that
fits, or makes one. -/
def Resolves (t : RegistryCalls) (i : Nat) (kind : ExtensionKind) (settings : Settings) :
    Except String (String × Factory) → Prop
  | .error message => t.Can i (.unmatched i kind settings message)
  | .ok (name, factory) => ∃ p, t.Can i (.made i kind settings name factory p)

theorem Resolves.goesOn {chosen : Except String (String × Factory)}
    (resolves : t.Resolves i kind settings chosen) : t.GoesOn i := by
  cases chosen with
  | error message => exact ⟨_, resolves⟩
  | ok candidate =>
    obtain ⟨p, can⟩ := resolves
    exact ⟨_, can⟩

/-- A call that needs a provider goes by its settings when there is none. -/
theorem Resolves.of_asking (at_ : t.stages[i]? = some (.asking aim settings))
    (empty : t.registry.provider? aim.kind = none) (turn : t.setters aim.kind = 0) :
    t.Resolves i aim.kind settings (t.select aim.kind settings) := by
  cases chosen : t.select aim.kind settings with
  | error message =>
    refine Can.of_shift (m := .proceed i) at_ (.unmatched empty turn chosen) ?_
    simp [step, at_, proceed, empty, turn, chosen]
  | ok candidate =>
    obtain ⟨p, new⟩ := exists_not_made t.history
    refine ⟨p, .of_shift (m := .make i p) at_ (.made empty turn chosen new) ?_⟩
    simp [step, at_, make, empty, turn, chosen, new]

/-- A call that needs a provider goes on, unless another one is setting one of this kind up. -/
theorem GoesOn.of_asking (at_ : t.stages[i]? = some (.asking aim settings))
    (turn : t.setters aim.kind = 0) : t.GoesOn i := by
  cases cell : t.registry.provider? aim.kind with
  | some p => exact ⟨_, .found at_ cell⟩
  | none => exact (Resolves.of_asking at_ cell turn).goesOn

end Asking

/-- A call that has not returned goes on, or needs a provider that another one is setting up. -/
theorem progress {stage : Stage} (at_ : t.stages[i]? = some stage)
    (going : stage.returned = false) : t.GoesOn i ∨
      ∃ aim settings j other, stage = .asking aim settings ∧ t.stages[j]? = some other ∧
        other.sets aim.kind = true ∧ t.GoesOn j := by
  cases stage with
  | asking aim settings =>
    rcases Nat.eq_zero_or_pos (t.setters aim.kind) with turn | taken
    · exact .inl (.of_asking at_ turn)
    · obtain ⟨other, mem, sets⟩ := List.countP_pos_iff.mp taken
      obtain ⟨j, atJ⟩ := List.mem_iff_getElem?.mp mem
      exact .inr ⟨aim, settings, j, other, rfl, atJ, sets, .of_sets atJ sets⟩
  | setting aim settings name p => exact .inl (.of_sets at_ (decide_eq_true (Eq.refl aim.kind)))
  | closing kind =>
    left
    cases full : t.registry.provider? kind with
    | some p =>
      refine ⟨_, .of_shift (m := .proceed i) at_ (.closeSent full) ?_⟩
      simp [step, at_, proceed, full]
    | none =>
      refine ⟨_, .of_shift (m := .proceed i) at_ (.passed full) ?_⟩
      simp [step, at_, proceed, full]
  | releasing kind p =>
    left
    refine ⟨_, .of_shift (m := .answer i (.ok ())) at_ (.closeAnswered (.ok ())) ?_⟩
    rw [step, at_]
    rfl
  | _ => cases going

/-! ### The two kinds -/

/-- The kind of provider that something is about. -/
def Happening.kind? : Happening → Option ExtensionKind
  | called .. => none
  | registered kind _ | found _ kind _ | unmatched _ kind .. | made _ kind .. | setUp _ kind ..
  | passed _ kind | closeSent _ kind _ | closeAnswered _ kind .. => some kind

/-- What is about one kind sets up nothing of the other, and registers nothing for it. -/
theorem Happening.nothing_of_kind? {e : Happening} (other : e.kind? ≠ some kind) :
    e.ready? kind = none ∧ e.registers? kind = none := by
  cases e with
  | setUp i k p answer =>
    have differs : k ≠ kind := fun same => other (congrArg some same)
    cases answer <;> simp [ready?, registers?, differs]
  | registered k c =>
    have differs : k ≠ kind := fun same => other (congrArg some same)
    simp [ready?, registers?, differs]
  | _ => exact ⟨rfl, rfl⟩

/-- **The kinds do not meet.**  A step about one of them leaves the provider, the candidates and the
turns of the other alone. -/
theorem Step.separate {e : Happening} (taken : Step t e u) (other : e.kind? ≠ some kind) :
    u.registry.provider? kind = t.registry.provider? kind ∧
      u.registry.candidates kind = t.registry.candidates kind ∧
        u.setters kind = t.setters kind := by
  obtain ⟨not_ready, not_registered⟩ := Happening.nothing_of_kind? other
  refine ⟨?_, ?_, ?_⟩
  · rw [taken.registry_eq, Happening.provider?_effect, not_ready, Option.none_or]
  · rw [taken.registry_eq, Happening.candidates_effect, not_registered, Option.toList_none,
      List.append_nil]
  · cases taken with
    | called request => exact setters_join ..
    | registered k c => rfl
    | @moved i old new _ at_ shift =>
      have counted := setters_put kind at_ new e
      have turn := shift.turn
      generalize old.making? = left, new.making? = reached at counted turn
      cases turn with
      | @begun k =>
        have differs : k ≠ kind := fun same => other (congrArg some same)
        simpa [differs] using counted
      | @ended k =>
        have differs : k ≠ kind := fun same => other (congrArg some same)
        simpa [differs] using counted
      | quiet => simpa using counted

/-! ### What can be relied on -/

/-- What can be relied on, at any moment, when calls use a registry that was opened with the
candidates `offered`. -/
structure Shared (offered : ExtensionKind → List Candidate) (t : RegistryCalls) : Prop where
  /-- At most one provider of a kind was ever set up. -/
  one : ∀ kind, (ready kind t.history).length ≤ 1
  /-- The registry has this one, and nothing that failed. -/
  stored : ∀ kind, ready kind t.history = (t.registry.provider? kind).toList
  /-- It has the candidates that were registered. -/
  enlisted : ∀ kind, t.registry.candidates kind = offered kind ++ registered kind t.history
  /-- Every call that has a provider, or has returned one, has the one of the registry. -/
  same : ∀ (i : Nat) (stage : Stage) kind p, t.stages[i]? = some stage → (kind, p) ∈ stage.has →
    t.registry.provider? kind = some p
  /-- A provider that a call came to have stays, whatever becomes of the call. -/
  kept : ∀ i kind settings (o : Outcome) p, o.trace i kind settings ⊆ t.history →
    o.result kind settings = .ok p → t.registry.provider? kind = some p
  /-- A call goes by its own settings, and looks for a context provider only when it has an
  authenticator. -/
  story : ∀ (i : Nat) (stage : Stage), t.stages[i]? = some stage → Story i stage (own i t.history)
  /-- A provider is made, or a call refused, only while there is none of the kind, and by the
  candidates that are registered then. -/
  grounded : Throughout (Grounded offered) t.history
  /-- When nobody has set up a provider of a kind, and nobody is about to, a call that needs one
  tries, with its own settings and the candidates that are registered by now. -/
  again : ∀ i aim settings, t.stages[i]? = some (.asking aim settings) →
    ready aim.kind t.history = [] → t.setters aim.kind = 0 →
      t.Resolves i aim.kind settings (Resolution.select aim.kind
        (settings.security.tagOf aim.kind) (offered aim.kind ++ registered aim.kind t.history))
  /-- A provider whose setup failed is never had, and never closed. -/
  failed : ∀ i k p e, .setUp i k p (.error e) ∈ t.history → ∀ kind, p ∉ ready kind t.history ∧
    (∀ stage ∈ t.stages, (kind, p) ∉ stage.has) ∧ ∀ j, .closeSent j kind p ∉ t.history
  /-- A call that has closed the providers closed each of them once. -/
  closes : ∀ i : Nat, t.stages[i]? = some .closed → ∃ before after first second,
    t.history = before ++ .called i .close :: after ∧ Closes i before after first second
  /-- What is about one kind is nothing to the other. -/
  separate : ∀ e u kind, Step t e u → e.kind? ≠ some kind →
    u.registry.provider? kind = t.registry.provider? kind ∧
      u.registry.candidates kind = t.registry.candidates kind ∧ u.setters kind = t.setters kind
  /-- A call that has not returned can go on, or waits for one that can, which is setting up what it
  needs. -/
  progress : ∀ (i : Nat) (stage : Stage), t.stages[i]? = some stage → stage.returned = false →
    t.GoesOn i ∨ ∃ aim settings j other, stage = .asking aim settings ∧
      t.stages[j]? = some other ∧ other.sets aim.kind = true ∧ t.GoesOn j

/-- **The calls on a registry share its providers**, in every order and whatever the providers
answer. -/
theorem Reached.shared (h : Reached offered t) : Shared offered t where
  one kind := by
    have turns := (h.single kind).turns
    omega
  stored kind := (h.single kind).stored
  enlisted := h.candidates_eq
  same _ _ _ _ at_ mem := h.provider?_eq_some_iff.mpr (h.ready_of_has at_ mem)
  kept _ _ _ _ _ seen ok := h.provider?_of_outcome seen ok
  story _ _ at_ := h.story at_
  grounded := h.grounded
  again := by
    intro i aim settings at_ nobody turn
    rw [← h.candidates_eq]
    exact .of_asking at_ (h.provider?_eq_none_iff.mpr nobody) turn
  failed := by
    intro i k p e failed kind
    have not_ready := h.not_ready_of_failed failed kind
    refine ⟨not_ready, fun stage mem has => ?_, fun j sent => ?_⟩
    · obtain ⟨l, at_⟩ := List.mem_iff_getElem?.mp mem
      exact not_ready (h.ready_of_has at_ has)
    · exact not_ready (h.ready_of_met sent (.inr rfl))
  closes _ done := h.closes done
  separate _ _ _ taken other := taken.separate other
  progress _ _ at_ going := RegistryCalls.progress at_ going

/-! ### Trying things out -/

/-- Settings that choose an authenticator. -/
def choosing (tag : String) : Settings :=
  { Settings.default with
    security := { SecuritySettings.default with authenticator := ⟨tag⟩ } }

/-- An authenticator is asked for that is not registered yet, another one cannot be set up, and the
first is registered.  Then an establisher is made, and the providers are closed, not all without an
error. -/
def recovered : List Move :=
  [.call (.get .authenticator (choosing "ldap")),
    .call (.establish (choosing "customAuthenticator") []),
    .proceed 0, .make 1 ⟨0⟩, .answer 1 (.error .unreadable),
    .register .authenticator ⟨"Ldap", some "LDAP", some (.custom 1)⟩,
    .call (.establish (choosing "ldap") []), .make 2 ⟨1⟩, .answer 2 (.ok ()), .make 2 ⟨2⟩,
    .answer 2 (.ok ()), .call (.get .authenticator (choosing "customAuthenticator")), .proceed 3,
    .call .close, .proceed 4, .answer 4 (.error .unreadable), .proceed 4, .answer 4 (.ok ())]

/-- Three providers were made, and two of them set up. -/
theorem shared_recovered : ∃ t,
    (opening (Registry.withBuiltin []).candidates []).run recovered = some t ∧
      Shared (Registry.withBuiltin []).candidates t ∧ made t.history = [⟨0⟩, ⟨1⟩, ⟨2⟩] ∧
        t.registry.provider? .authenticator = some ⟨1⟩ ∧
          t.registry.provider? .contextHandler = some ⟨2⟩ := by
  refine ⟨_, rfl, Reached.shared ⟨[], recovered, rfl⟩, rfl, rfl, rfl⟩

end QuerySession.RegistryCalls
