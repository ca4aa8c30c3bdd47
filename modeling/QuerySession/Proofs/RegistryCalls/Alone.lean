import QuerySession.Proofs.RegistryCalls.Story
import QuerySession.Proofs.Resolution
import QuerySession.Simulation.World

/-!
# One call on a registry at a time

`Registry.get`, `Establisher.ofRegistry` and `Registry.close` are the calls of a machine that nobody
else uses.  Here a call of the machine of `RegistryCalls` is followed from its beginning to its end,
with the answers that the providers give, while all other calls stand still; it ends with the
registry and the result of the operation.

* `run_getAlone` — a call for a provider that nobody disturbs is `Registry.get`
* `run_establishAlone` — a call for an establisher that nobody disturbs is `Establisher.ofRegistry`
* `run_closeAlone` — a call that closes the providers closes those that `Registry.close` closes
-/

namespace QuerySession

variable {σ : Type}

/-- The outside knows which providers were made: a factory makes one that was not made before, and
setting it up makes no other. -/
structure Providers.Counted (providers : Providers σ) (known : σ → List ProviderId) : Prop where
  fresh : ∀ factory spans scene,
    ((providers.construct factory) spans scene).1 ∉ known scene.outside
  construct : ∀ factory spans scene, known ((providers.construct factory) spans scene).2.outside =
    known scene.outside ++ [((providers.construct factory) spans scene).1]
  setup : ∀ p settings spans scene,
    known ((providers.setup p settings).outcome spans scene).2.outside = known scene.outside

/-- The simulated providers are numbered as they were made. -/
theorem World.providers_counted : World.providers.Counted fun w =>
    (List.range w.made.length).map ProviderId.mk where
  fresh factory spans scene := by
    show ProviderId.mk scene.outside.made.length ∉ _
    simp
  construct factory spans scene := by
    show (List.range (World.construct factory spans scene).2.outside.made.length).map _ =
      _ ++ [ProviderId.mk scene.outside.made.length]
    have longer : (World.construct factory spans scene).2.outside.made.length =
        scene.outside.made.length + 1 := by
      unfold World.construct
      rw [Action.consult_eq]
      cases factory <;> simp [World.note]
    rw [longer, List.range_succ, List.map_append, List.map_singleton]
  setup p settings spans scene := by
    suffices same : ((World.setup p settings).outcome spans scene).2.outside.made.length =
        scene.outside.made.length from congrArg (fun n => (List.range n).map ProviderId.mk) same
    unfold World.setup World.provider?
    rw [Attempt.bind_eq, Attempt.consult_eq]
    cases scene.outside.made[p.number]? with
    | none => rfl
    | some provider =>
      cases provider with
      | scripted provider => simp [Attempt.consult_eq, World.putProvider, World.note]
      | httpLogin login =>
        simp only
        rw [Attempt.bind_eq, Attempt.lift_eq]
        simp only [Attempt.consult_eq, World.putProvider, List.length_set]
        unfold HttpLogin.setup HttpLogin.setupWith
        cases Endpoint.ofSettings SimulatedUrl.parser none settings.security <;> rfl
      | noContext => rfl

variable {providers : Providers σ} {known : σ → List ProviderId} {kind : ExtensionKind}
  {settings : Settings}

open RegistryCalls (Outcome Happening Move Stage Aim unmatchedError setUpResult)

/-! ### What comes of a need -/

namespace RegistryCalls.Outcome

/-- Whether a need can come to an outcome, by the registry and the providers that were made. -/
def Fits (r : Registry) (before : List ProviderId) (kind : ExtensionKind) (settings : Settings) :
    Outcome → Prop
  | found p => r.provider? kind = some p
  | unmatched message => r.provider? kind = none ∧
      Resolution.select kind (settings.security.tagOf kind) (r.candidates kind) = .error message
  | tried name factory p _ => r.provider? kind = none ∧
      Resolution.select kind (settings.security.tagOf kind) (r.candidates kind) =
        .ok (name, factory) ∧ p ∉ before

/-- The moves that lead to an outcome. -/
def moves (i : Nat) : Outcome → List Move
  | found _ | unmatched _ => [.proceed i]
  | tried _ _ p answer => [.make i p, .answer i answer]

/-- The registry afterwards. -/
def leaves (r : Registry) (kind : ExtensionKind) : Outcome → Registry
  | tried _ _ p (.ok ()) => r.keep kind p
  | _ => r

/-- The providers that were made. -/
def makes : Outcome → List ProviderId
  | tried _ _ p _ => [p]
  | _ => []

theorem made_trace (i : Nat) (kind : ExtensionKind) (settings : Settings) (o : Outcome) :
    made (o.trace i kind settings) = o.makes := by cases o <;> rfl

end RegistryCalls.Outcome

/-- What `Registry.get` answers and leaves is what comes of a need. -/
theorem Registry.get_outcome (counted : providers.Counted known) (r : Registry)
    (kind : ExtensionKind) (settings : Settings) (spans : List String) (scene : Scene σ) :
    ∃ o : Outcome, o.Fits r (known scene.outside) kind settings ∧ ∃ after : Scene σ,
      (r.get providers kind settings) spans scene =
        ((o.result kind settings, o.leaves r kind), after) ∧
      known after.outside = known scene.outside ++ o.makes := by
  unfold get
  cases cell : r.provider? kind with
  | some p => exact ⟨.found p, cell, scene, rfl, (List.append_nil _).symm⟩
  | none =>
    simp only
    rw [Action.bind_eq, Action.within_eq]
    obtain ⟨skipped, each⟩ := Resolution.resolve_eq kind (settings.security.tagOf kind)
      (r.candidates kind) r.spans
    rw [each providers settings scene]
    cases chosen : Resolution.select kind (settings.security.tagOf kind) (r.candidates kind) with
    | error message => exact ⟨.unmatched message, ⟨cell, chosen⟩, _, rfl, (List.append_nil _).symm⟩
    | ok candidate =>
      obtain ⟨name, factory⟩ := candidate
      simp only
      rcases built : (providers.construct factory) r.spans ⟨scene.outside, scene.events ++ skipped⟩
        with ⟨p, made⟩
      rcases ready : (providers.setup p settings).outcome r.spans made with ⟨answer, after⟩
      obtain ⟨last, concluding⟩ := Resolution.conclude_reports kind (settings.security.tagOf kind) name
        p answer r.spans
      have concluded : (Resolution.conclude kind (settings.security.tagOf kind) name p answer).outcome
        r.spans after = _ := concluding σ after
      have fresh := counted.fresh factory r.spans ⟨scene.outside, scene.events ++ skipped⟩
      have counts := counted.construct factory r.spans ⟨scene.outside, scene.events ++ skipped⟩
      have stays := counted.setup p settings r.spans made
      rw [built] at fresh counts
      rw [ready] at stays
      rw [Resolution.bringUp_eq built ready, concluded]
      refine ⟨.tried name factory p answer, ⟨cell, chosen, fresh⟩,
        ⟨after.outside, after.events ++ last⟩, ?_, stays.trans counts⟩
      cases answer <;> rfl

/-- The providers of a registry, in the order in which they are closed. -/
def Registry.resolved (r : Registry) : List (ExtensionKind × ProviderId) :=
  (r.provider? .authenticator).toList.map (.authenticator, ·) ++
    (r.provider? .contextHandler).toList.map (.contextHandler, ·)

/-- `Registry.close` closes them one after the other. -/
theorem Registry.close_eq (providers : Providers σ) (r : Registry) :
    r.close providers =
      within r.spans (r.resolved.forM fun c => closeReporting providers c.1 c.2) := by
  unfold close closeProviders resolved
  cases r.provider? .authenticator <;> cases r.provider? .contextHandler <;> rfl

namespace RegistryCalls

variable {t : RegistryCalls} {r : Registry} {h : List Happening} {stage : Stage}

/-! ### A call among others -/

/-- One more call, besides those of `t`. -/
def beside (t : RegistryCalls) (r : Registry) (stage : Stage) (h : List Happening) :
    RegistryCalls :=
  ⟨r, t.stages ++ [stage], h⟩

theorem stage_beside : (t.beside r stage h).stages[t.stages.length]? = some stage := by
  simp [beside]

theorem put_beside (stage' : Stage) (e : Happening) :
    (t.beside r stage h).put t.stages.length stage' e =
      t.beside (e.effect r) stage' (h ++ [e]) := by
  simp [beside, put]

theorem setters_beside (aim : Aim) : (t.beside r (.asking aim settings) h).setters kind =
    t.setters kind := by
  simp [setters, beside, List.countP_append, Stage.sets]

/-- A call that nobody disturbs comes to the outcome that fits. -/
theorem run_outcome {aim : Aim} {o : Outcome} (turn : t.setters aim.kind = 0)
    (fits : o.Fits r (made h) aim.kind settings) :
    (t.beside r (.asking aim settings) h).run (o.moves t.stages.length) =
      some (t.beside (o.leaves r aim.kind)
        (.after settings aim (o.result aim.kind settings))
        (h ++ o.trace t.stages.length aim.kind settings)) := by
  have free : (t.beside r (.asking aim settings) h).setters aim.kind = 0 :=
    (setters_beside aim).trans turn
  cases o with
  | found p =>
    have full : (t.beside r (.asking aim settings) h).registry.provider? aim.kind = some p := fits
    have went : (t.beside r (.asking aim settings) h).step (.proceed t.stages.length) =
        some (t.beside r (.after settings aim (.ok p))
          (h ++ [.found t.stages.length aim.kind p])) := by
      simp only [step, stage_beside, Option.bind_some, proceed, full, put_beside]
      rfl
    exact Schedule.cons went List.foldlM_nil
  | unmatched message =>
    obtain ⟨empty, chosen⟩ := fits
    have none_there : (t.beside r (.asking aim settings) h).registry.provider? aim.kind = none :=
      empty
    have refused : (t.beside r (.asking aim settings) h).select aim.kind settings =
      .error message := chosen
    have went : (t.beside r (.asking aim settings) h).step (.proceed t.stages.length) =
        some (t.beside r
          (.after settings aim (.error (unmatchedError aim.kind settings message)))
          (h ++ [.unmatched t.stages.length aim.kind settings message])) := by
      simp only [step, stage_beside, Option.bind_some, proceed, none_there, free, refused,
        put_beside]
      rfl
    exact Schedule.cons went List.foldlM_nil
  | tried name factory p answer =>
    obtain ⟨empty, chosen, new⟩ := fits
    have none_there : (t.beside r (.asking aim settings) h).registry.provider? aim.kind = none :=
      empty
    have picked : (t.beside r (.asking aim settings) h).select aim.kind settings =
      .ok (name, factory) := chosen
    have unknown : p ∉ made (t.beside r (.asking aim settings) h).history := new
    have begun : (t.beside r (.asking aim settings) h).step (.make t.stages.length p) =
        some (t.beside r (.setting aim settings name p)
          (h ++ [.made t.stages.length aim.kind settings name factory p])) := by
      simp [step, stage_beside, make, none_there, free, picked, unknown, put_beside,
        Happening.effect]
    have ended (h : List Happening) :
        (t.beside r (.setting aim settings name p) h).step (.answer t.stages.length answer) =
          some (t.beside ((Outcome.tried name factory p answer).leaves r aim.kind)
            (.after settings aim (setUpResult aim.kind settings name p answer))
            (h ++ [.setUp t.stages.length aim.kind p answer])) := by
      simp only [step, stage_beside, Option.bind_some, hear, put_beside]
      cases answer <;> rfl
    have went := Schedule.cons begun (Schedule.cons (ended _) List.foldlM_nil)
    rw [List.append_assoc] at went
    exact went

/-- A call begins beside the others. -/
theorem run_call (t : RegistryCalls) (request : Request) (moves : List Move) :
    t.run (.call request :: moves) = (t.beside t.registry (.first request)
      (t.history ++ [.called t.stages.length request])).run moves := rfl

/-- What was made, when a call has been made. -/
theorem made_called (h : List Happening) (i : Nat) (request : Request) :
    made (h ++ [.called i request]) = made h := by
  rw [made_append]
  exact List.append_nil _

/-- A call that nobody disturbs gets what `Registry.get` answers, on the same providers. -/
theorem run_asking (counted : providers.Counted known) (r : Registry) (aim : Aim)
    (settings : Settings) (turn : t.setters aim.kind = 0) (spans : List String) {scene : Scene σ}
    (agree : known scene.outside = made h) :
    let done := (r.get providers aim.kind settings) spans scene
    ∃ moves h', (t.beside r (.asking aim settings) h).run moves =
        some (t.beside done.1.2 (.after settings aim done.1.1) h') ∧
      known done.2.outside = made h' := by
  intro done
  obtain ⟨o, fits, after, answered, counts⟩ := r.get_outcome counted aim.kind settings spans scene
  rw [agree] at fits counts
  have result : done = ((o.result aim.kind settings, o.leaves r aim.kind), after) := answered
  refine ⟨o.moves t.stages.length, h ++ o.trace t.stages.length aim.kind settings, ?_, ?_⟩
  · rw [result]
    exact run_outcome turn fits
  · rw [result, made_append, Outcome.made_trace]
    exact counts

/-! ### Calls that nobody disturbs -/

section Undisturbed

variable (counted : providers.Counted known) (t : RegistryCalls) (settings : Settings)
  (spans outer : List String) {scene : Scene σ} (agree : known scene.outside = made t.history)

include counted agree

/-- **A call for a provider that nobody disturbs** ends with the registry and the result of
`Registry.get`, on the same providers. -/
theorem run_getAlone (kind : ExtensionKind) (turn : t.setters kind = 0) :
    let done := (t.registry.get providers kind settings) outer scene
    ∃ moves h, t.run (.call (.get kind settings) :: moves) =
        some (t.beside done.1.2 (.got kind done.1.1) h) ∧ known done.2.outside = made h := by
  intro done
  rw [← made_called _ t.stages.length (.get kind settings)] at agree
  obtain ⟨moves, h, run, counts⟩ :=
    run_asking counted t.registry (.get kind) settings turn outer agree
  exact ⟨moves, h, (run_call ..).trans run, counts⟩

/-- **A call for an establisher that nobody disturbs** ends with the registry and the result of
`Establisher.ofRegistry`, on the same providers. -/
theorem run_establishAlone (turn : ∀ kind, t.setters kind = 0) :
    let done := (Establisher.ofRegistry providers t.registry settings spans) outer scene
    ∃ moves h, t.run (.call (.establish settings spans) :: moves) =
        some (t.beside done.1.2 (.established done.1.1) h) ∧ known done.2.outside = made h := by
  intro done
  have result : done = _ := Establisher.ofRegistry_eq providers t.registry settings spans outer scene
  rw [← made_called _ t.stages.length (.establish settings spans)] at agree
  obtain ⟨moves, h, run, counts⟩ := run_asking counted t.registry (.authenticator spans)
    settings (turn _) outer agree
  have begun : t.run (.call (.establish settings spans) :: moves) = _ := (run_call ..).trans run
  simp only [Aim.kind] at begun counts
  rcases first : (t.registry.get providers .authenticator settings) outer scene with
    ⟨⟨answer, r⟩, after⟩
  rw [first] at begun counts result
  cases answer with
  | error e => exact ⟨moves, h, result ▸ begun, result ▸ counts⟩
  | ok authenticator =>
    obtain ⟨later, h', run', counts'⟩ := run_asking counted r (.contextHandler authenticator spans)
      settings (turn _) outer counts
    have whole := Schedule.append begun run'
    simp only [Aim.kind] at whole counts'
    simp only at result
    refine ⟨moves ++ later, h', ?_⟩
    rcases second : (r.get providers .contextHandler settings) outer after with
      ⟨⟨answer', r'⟩, last⟩
    rw [second] at whole counts' result
    cases answer' <;> exact ⟨result ▸ whole, result ▸ counts'⟩

end Undisturbed

/-- The provider that was closed. -/
def Happening.closes? : Happening → Option (ExtensionKind × ProviderId)
  | closeSent _ kind p => some (kind, p)
  | _ => none

/-- What a call does that closes the providers of a registry, by what they answer. -/
def releases (i : Nat) (r : Registry) (answer : ExtensionKind → Except Error Unit)
    (kind : ExtensionKind) : List Happening :=
  release i kind ((r.provider? kind).map (·, answer kind))

/-- The moves of a call that closes the provider of a kind, if there is one. -/
def closeMoves (i : Nat) (r : Registry) (answer : ExtensionKind → Except Error Unit)
    (kind : ExtensionKind) : List Move :=
  match r.provider? kind with
  | none => [.proceed i]
  | some _ => [.proceed i, .answer i (answer kind)]

/-- A call that nobody disturbs closes the provider of a kind, and comes to the next. -/
theorem run_closing (answer : ExtensionKind → Except Error Unit) (kind : ExtensionKind) :
    (t.beside r (.closing kind) h).run (closeMoves t.stages.length r answer kind) =
      some (t.beside r (.afterClose kind) (h ++ releases t.stages.length r answer kind)) := by
  unfold closeMoves releases
  cases full : r.provider? kind with
  | none =>
    have empty : (t.beside r (.closing kind) h).registry.provider? kind = none := full
    have passed : (t.beside r (.closing kind) h).step (.proceed t.stages.length) =
        some (t.beside r (.afterClose kind) (h ++ [.passed t.stages.length kind])) := by
      simp only [step, stage_beside, Option.bind_some, proceed, empty, put_beside]
      rfl
    exact Schedule.cons passed List.foldlM_nil
  | some p =>
    have there : (t.beside r (.closing kind) h).registry.provider? kind = some p := full
    have sent : (t.beside r (.closing kind) h).step (.proceed t.stages.length) =
        some (t.beside r (.releasing kind p) (h ++ [.closeSent t.stages.length kind p])) := by
      simp only [step, stage_beside, Option.bind_some, proceed, there, put_beside]
      rfl
    have answered (h : List Happening) :
        (t.beside r (.releasing kind p) h).step (.answer t.stages.length (answer kind)) =
          some (t.beside r (.afterClose kind)
            (h ++ [.closeAnswered t.stages.length kind p (answer kind)])) := by
      simp only [step, stage_beside, Option.bind_some, hear, put_beside]
      rfl
    have went := Schedule.cons sent (Schedule.cons (answered _) List.foldlM_nil)
    rw [List.append_assoc] at went
    exact went

/-- The providers that it closes are those of the registry. -/
theorem closes_releases (i : Nat) (r : Registry) (answer : ExtensionKind → Except Error Unit)
    (kind : ExtensionKind) : (releases i r answer kind).filterMap Happening.closes? =
      (r.provider? kind).toList.map (kind, ·) := by
  unfold releases
  cases r.provider? kind <;> rfl

/-- **A call that closes the providers, and that nobody disturbs,** leaves the registry as it is,
whatever they answer, and closes those that `Registry.close` closes, in this order. -/
theorem run_closeAlone (providers : Providers σ) (t : RegistryCalls)
    (answer : ExtensionKind → Except Error Unit) :
    ∃ moves h, t.run (.call .close :: moves) =
        some (t.beside t.registry .closed (t.history ++ [.called t.stages.length .close] ++ h)) ∧
      t.registry.close providers = within t.registry.spans
        ((h.filterMap Happening.closes?).forM fun c => closeReporting providers c.1 c.2) := by
  let i := t.stages.length
  refine ⟨closeMoves i t.registry answer .authenticator ++
    closeMoves i t.registry answer .contextHandler,
    releases i t.registry answer .authenticator ++ releases i t.registry answer .contextHandler,
    ?_, ?_⟩
  · rw [run_call, ← List.append_assoc]
    exact Schedule.append (run_closing answer .authenticator) (run_closing answer .contextHandler)
  · rw [List.filterMap_append, closes_releases, closes_releases]
    exact Registry.close_eq providers t.registry

end RegistryCalls

end QuerySession
