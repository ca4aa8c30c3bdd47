import QuerySession.Proofs.Candidates
import QuerySession.Proofs.SideBySide
import QuerySession.Security.Recorded
import QuerySession.Session.Establish

/-!
# The provider of a tag

Nothing is made before it is clear that exactly one candidate can serve the tag, and nothing but that
one is made and set up, once (`Resolution.Course`).  The calls are read off a run with providers that
are watched, which answers as the run without.

Other arrangements of the candidates come to the same result.  This needs providers that do not look
at what was reported before they were called, since every candidate that cannot be used is reported.

## Main Definitions

* `Providers.Unheeding` — providers that do not look at what was reported
* `Resolution.Course` — the calls of providers, and what comes of them
* `Resolution.Like` — results that differ in the order of names only
* `Resolution.Exact` — what is promised of the provider of a tag

## Main Results

* `Resolution.resolve_course` — the calls, and that watching them changes nothing
* `Resolution.resolve_rearranged` — the result does not depend on the arrangement
* `Resolution.resolve_exact` — the promise is kept
-/

namespace QuerySession

variable {σ : Type} {providers : Providers σ} {kind : ExtensionKind} {tag : String}
  {candidates candidates' : List Candidate} {settings : Settings} {spans : List String}

namespace Resolution

/-! ## The stages of `resolve` -/

/-- Looking through the candidates only reports. -/
theorem lookThrough_reports (kind : ExtensionKind) (tag : String) (candidates : List Candidate)
    (spans : List String) :
    ∃ events, Action.Reports (fun _ => lookThrough kind tag candidates) spans () events := by
  have each (c : Candidate) :
      ∃ events, Action.Reports (fun _ => reportUnusable kind tag c) spans () events := by
    unfold reportUnusable
    cases c.verdict tag with
    | untagged => exact ⟨_, Action.Reports.emit _ _ _ spans⟩
    | unbuildable => exact ⟨_, Action.Reports.emit _ _ _ spans⟩
    | different => exact ⟨[], Action.Reports.pure () spans⟩
    | fits factory => exact ⟨[], Action.Reports.pure () spans⟩
  unfold lookThrough
  cases Text.allBlank tag with
  | true => exact ⟨[], Action.Reports.pure () spans⟩
  | false => exact Action.Reports.forM candidates each

/-- A failure is reported, and nothing else is done. -/
theorem fail_reports {α : Type} (kind : ExtensionKind) (tag message : String) (cause : Cause)
    (spans : List String) :
    Attempt.Reports (fun σ => (fail kind tag message cause : Attempt σ α)) spans
      (.error (failure kind tag message cause))
      [⟨.error, message, [("kind", kind.describe), ("type_tag", tag)], spans⟩] :=
  (Attempt.Reports.emit _ _ _ _).bind (.ofExcept _ _)

/-- What comes of a provider that was made, by what its setup answers. -/
def readied (kind : ExtensionKind) (tag name : String) (p : ProviderId) :
    Except Error Unit → Except Error ProviderId
  | .ok () => .ok p
  | .error e => .error (failure kind tag (setupFailed kind name) (.error e))

/-- What is done with a provider that was made, by what its setup answers. -/
def conclude (kind : ExtensionKind) (tag name : String) (p : ProviderId) :
    Except Error Unit → Attempt σ ProviderId
  | .ok () => do
    .emit .info "Security extension resolved"
      [("candidate", name), ("kind", kind.describe), ("type_tag", tag)]
    pure p
  | .error e => fail kind tag (setupFailed kind name) (.error e)

/-- In the end there is only something to report. -/
theorem conclude_reports (kind : ExtensionKind) (tag name : String) (p : ProviderId)
    (answer : Except Error Unit) (spans : List String) :
    ∃ events, Attempt.Reports (fun _ => conclude kind tag name p answer) spans
      (readied kind tag name p answer) events := by
  cases answer with
  | error e => exact ⟨_, fail_reports kind tag _ (.error e) spans⟩
  | ok _ => exact ⟨_, (Attempt.Reports.emit _ _ _ _).bind (.pure p spans)⟩

/-- A provider is made and set up, in this order. -/
theorem bringUp_eq {name : String} {factory : Factory} {p : ProviderId} {scene made after : Scene σ}
    {answer : Except Error Unit}
    (built : (providers.construct factory) spans scene = (p, made))
    (answered : (providers.setup p settings).outcome spans made = (answer, after)) :
    (bringUp providers kind tag settings name factory).outcome spans scene =
      (conclude kind tag name p answer).outcome spans after := by
  unfold bringUp
  rw [Attempt.bind_eq, Attempt.lift_eq, built]
  simp only
  rw [Attempt.bind_eq, Attempt.lift_eq, answered]
  cases answer <;> rfl

/-- Once the candidates were looked through, `resolve` goes by the one that fits. -/
theorem resolve_eq (kind : ExtensionKind) (tag : String) (candidates : List Candidate)
    (spans : List String) :
    ∃ skipped, ∀ {σ : Type} (providers : Providers σ) (settings : Settings) (scene : Scene σ),
      (resolve providers kind tag candidates settings).outcome spans scene =
        match select kind tag candidates with
        | .error message => (fail kind tag message .unknown).outcome spans
            ⟨scene.outside, scene.events ++ skipped⟩
        | .ok (name, factory) => (bringUp providers kind tag settings name factory).outcome spans
            ⟨scene.outside, scene.events ++ skipped⟩ := by
  obtain ⟨skipped, looked⟩ := lookThrough_reports kind tag candidates spans
  refine ⟨skipped, fun {σ} providers settings scene => ?_⟩
  have first : (lookThrough kind tag candidates) spans scene = _ := looked σ scene
  unfold resolve
  rw [Attempt.bind_eq, Attempt.lift_eq, first]
  cases select kind tag candidates with
  | error message => rfl
  | ok candidate => rfl

/-! ## The calls -/

/-- The calls of providers while a tag is resolved, and what comes of them, in the scene that looking
through the candidates leaves. -/
inductive Course (providers : Providers σ) (kind : ExtensionKind) (tag : String)
    (candidates : List Candidate) (settings : Settings) (spans : List String)
    (reported : Scene σ) : List ProviderUse → Except Error ProviderId → Prop
  /-- There is not exactly one candidate, and nobody is called. -/
  | refused {finding : Finding} {message : String} (found : Finds tag candidates finding)
      (refusal : finding.choice kind tag = .error message) :
      Course providers kind tag candidates settings spans reported []
        (.error (failure kind tag message .unknown))
  /-- A provider of the one candidate is made and set up. -/
  | tried {c : Candidate} {factory : Factory} {p : ProviderId} {made after : Scene σ}
      {answer : Except Error Unit} (found : Finds tag candidates (.sole c factory))
      (built : (providers.construct factory) spans reported = (p, made))
      (answered : (providers.setup p settings).outcome spans made = (answer, after)) :
      Course providers kind tag candidates settings spans reported
        [.construct factory p, .setup p settings answer] (readied kind tag c.name p answer)

/-- **The calls of providers**: their course, and that the answers and the rest of the outside are
the same whether they are watched or not. -/
theorem resolve_course (providers : Providers σ) (kind : ExtensionKind) (tag : String)
    (candidates : List Candidate) (settings : Settings) (spans : List String) (scene : Scene σ) :
    ∃ skipped uses result after,
      Course providers kind tag candidates settings spans
          ⟨scene.outside, scene.events ++ skipped⟩ uses result ∧
        (resolve providers kind tag candidates settings).outcome spans scene = (result, after) ∧
          (resolve providers.watched kind tag candidates settings).outcome spans
              (Watched.open_ scene) =
            (result, ⟨⟨after.outside, uses⟩, after.events⟩) := by
  obtain ⟨finding, found⟩ := exists_finds tag candidates
  obtain ⟨skipped, each⟩ := resolve_eq kind tag candidates spans
  have lone := each providers settings scene
  have seen := each providers.watched settings (Watched.open_ scene)
  rw [select_of_finds kind found] at lone seen
  cases chosen : finding.choice kind tag with
  | error message =>
    rw [chosen] at lone seen
    exact ⟨skipped, _, _, _, .refused found chosen, lone, seen⟩
  | ok candidate =>
    cases finding with
    | unset => cases chosen
    | unclaimed => cases chosen
    | contested names => cases chosen
    | sole c factory =>
      cases built : (providers.construct factory) spans
          ⟨scene.outside, scene.events ++ skipped⟩ with
      | mk p made =>
        cases answered : (providers.setup p settings).outcome spans made with
        | mk answer after =>
          have built_watched : (providers.watched.construct factory) spans
              ⟨(Watched.open_ scene).outside, (Watched.open_ scene).events ++ skipped⟩ = _ :=
            Watched.noting_eq built
          have answered_watched : (providers.watched.setup p settings).outcome spans
              ⟨⟨made.outside, [.construct factory p]⟩, made.events⟩ = _ :=
            Watched.noting_eq answered
          obtain ⟨last, concluding⟩ := conclude_reports kind tag c.name p answer spans
          have lone' := lone.trans (bringUp_eq built answered)
          have seen' := seen.trans (bringUp_eq built_watched answered_watched)
          exact ⟨skipped, _, _, _, .tried found built answered, lone'.trans (concluding σ _),
            seen'.trans (concluding (Watched σ) _)⟩

section Course

variable {reported : Scene σ} {uses : List ProviderUse} {result : Except Error ProviderId}
  {e : Error}
  (course : Course providers kind tag candidates settings spans reported uses result)
include course

/-- A tag is resolved exactly when it is not blank, there is exactly one candidate that can serve it,
and the provider that this one makes is set up; that is the provider then. -/
theorem Course.eq_ok_iff {p : ProviderId} : result = .ok p ↔
    Text.allBlank tag = false ∧ ∃ c factory made after, Candidate.serving tag candidates = [c] ∧
      c.factory = some factory ∧ (providers.construct factory) spans reported = (p, made) ∧
        (providers.setup p settings).outcome spans made = (.ok (), after) := by
  constructor
  · intro done
    cases course with
    | refused found refusal => cases done
    | @tried c factory q made after answer found built answered =>
      cases answer with
      | error e => cases done
      | ok _ =>
        obtain rfl : q = p := Except.ok.inj done
        cases found with
        | sole asked alone made_by =>
          exact ⟨asked, c, factory, made, after, alone, made_by, built, answered⟩
  · rintro ⟨asked, c, factory, made, after, alone, made_by, built, answered⟩
    have one : Finds tag candidates (.sole c factory) := .sole asked alone made_by
    cases course with
    | refused found refusal =>
      obtain rfl := found.unique one
      cases refusal
    | tried found built' answered' =>
      cases found.unique one
      cases built'.symm.trans built
      cases answered'.symm.trans answered
      rfl

/-- Every failure tells the kind and the tag. -/
theorem Course.failure_of_error (failed : result = .error e) :
    ∃ message, e = failure kind tag message e.cause := by
  cases course with
  | refused found refusal =>
    obtain rfl := Except.error.inj failed
    exact ⟨_, rfl⟩
  | @tried c factory p made after answer found built answered =>
    cases answer with
    | error e' =>
      obtain rfl := Except.error.inj failed
      exact ⟨_, rfl⟩
    | ok _ => cases failed

/-- What lies behind a failure is the failure of the setup, if that is what failed. -/
theorem Course.cause_eq (failed : result = .error e) :
    (e.cause = .unknown ∧ uses = []) ∨
      ∃ factory p e', e.cause = .error e' ∧
        uses = [.construct factory p, .setup p settings (.error e')] := by
  cases course with
  | refused found refusal =>
    obtain rfl := Except.error.inj failed
    exact .inl ⟨rfl, rfl⟩
  | @tried c factory p made after answer found built answered =>
    cases answer with
    | error e' =>
      obtain rfl := Except.error.inj failed
      exact .inr ⟨factory, p, e', rfl, rfl⟩
    | ok _ => cases failed

end Course

/-! ## Two arrangements side by side -/

end Resolution

/-- Providers that do not look at what was reported before they were called. -/
structure Providers.Unheeding (providers : Providers σ) : Prop where
  construct : ∀ told told' factory,
    Action.Discreet ⟨Eq, told, told'⟩ (providers.construct factory)
  setup : ∀ told told' p settings,
    Attempt.Discreet ⟨Eq, told, told'⟩ (providers.setup p settings)

namespace Resolution

/-- Two results that are the same, but for the order of the names of those that contest the tag. -/
inductive Like (kind : ExtensionKind) (tag : String) :
    Except Error ProviderId → Except Error ProviderId → Prop
  | same (result : Except Error ProviderId) : Like kind tag result result
  | contested {names names' : List String} {message message' : String} (same : names.Perm names')
      (told : (Finding.contested names).choice kind tag = .error message)
      (told' : (Finding.contested names').choice kind tag = .error message') :
      Like kind tag (.error (failure kind tag message .unknown))
        (.error (failure kind tag message' .unknown))

/-- Making a provider and setting it up does not tell what was reported before. -/
theorem bringUp_alike (unheeding : providers.Unheeding) (told told' : List Event) (name : String)
    (factory : Factory) :
    Attempt.Discreet ⟨Eq, told, told'⟩ (bringUp providers kind tag settings name factory) := by
  unfold bringUp
  apply (Attempt.Alike.lift (unheeding.construct told told' factory)).bind_same
  intro p
  apply (Attempt.Alike.lift (unheeding.setup told told' p settings).outcome).bind_same
  rintro (e | _)
  · exact (Attempt.Alike.emit _ _ _).bind_same fun _ => .ofExcept (.error _)
  · exact (Attempt.Alike.emit _ _ _).bind_same fun _ => .pure rfl

/-- **The result** does not depend on the arrangement. -/
theorem resolve_rearranged (unheeding : providers.Unheeding) (kind : ExtensionKind)
    (settings : Settings) (spans : List String) (scene : Scene σ)
    (h : Rearranged tag candidates candidates') :
    let lone := (resolve providers kind tag candidates settings).outcome spans scene
    let other := (resolve providers kind tag candidates' settings).outcome spans scene
    Like kind tag lone.1 other.1 ∧ lone.2.outside = other.2.outside := by
  intro lone other
  obtain ⟨finding, found⟩ := exists_finds tag candidates
  obtain ⟨finding', found', like⟩ := found.rearranged h
  obtain ⟨skipped, each⟩ := resolve_eq kind tag candidates spans
  obtain ⟨skipped', each'⟩ := resolve_eq kind tag candidates' spans
  have lone_eq : lone = _ := each providers settings scene
  have other_eq : other = _ := each' providers settings scene
  rw [select_of_finds kind found] at lone_eq
  rw [select_of_finds kind found'] at other_eq
  rw [lone_eq, other_eq]
  cases like with
  | contested same => exact ⟨.contested same rfl rfl, rfl⟩
  | same =>
    cases finding.choice kind tag with
    | error message => exact ⟨.same _, rfl⟩
    | ok candidate =>
      have alike : Scene.Alike ⟨Eq, skipped, skipped'⟩
          ⟨scene.outside, scene.events ++ skipped⟩ ⟨scene.outside, scene.events ++ skipped'⟩ :=
        ⟨rfl, .inr ⟨scene.events, [], by rw [List.append_nil], by rw [List.append_nil]⟩⟩
      obtain ⟨results, scenes⟩ := bringUp_alike unheeding skipped skipped' candidate.1 candidate.2
        spans _ _ alike
      exact ⟨results.eq ▸ .same _, scenes.outside⟩

end Resolution

/-! ## Providers that are looked for at the start -/

/-- The failure to find a provider keeps the server from starting. -/
theorem Registry.get_isStartupFatal {r : Registry} {scene : Scene σ} {e : Error}
    (failed : ((r.get providers kind settings) spans scene).1.1 = .error e) :
    e.isStartupFatal = true := by
  unfold get at failed
  cases cell : r.provider? kind with
  | some p => rw [cell] at failed; cases failed
  | none =>
    obtain ⟨skipped, uses, result, after, course, lone, -⟩ := Resolution.resolve_course providers kind
      (settings.security.tagOf kind) (r.candidates kind) settings r.spans scene
    rw [cell] at failed
    simp only at failed
    rw [Action.bind_eq, Action.within_eq, lone] at failed
    cases result with
    | ok p => cases failed
    | error e' =>
      obtain rfl : e' = e := Except.error.inj failed
      obtain ⟨message, told⟩ := course.failure_of_error rfl
      rw [told]
      rfl

/-- What `Establisher.ofRegistry` answers and leaves: the context provider is looked for only when
there is an authenticator, and what was found stays. -/
theorem Establisher.ofRegistry_eq (providers : Providers σ) (r : Registry) (settings : Settings)
    (spans outer : List String) (scene : Scene σ) :
    (ofRegistry providers r settings spans) outer scene =
      match (r.get providers .authenticator settings) outer scene with
      | ((.error e, r), after) => ((.error e, r), after)
      | ((.ok authenticator, r), after) =>
        match (r.get providers .contextHandler settings) outer after with
        | ((.error e, r), after) => ((.error e, r), after)
        | ((.ok p, r), after) => ((.ok (make authenticator (some p)
            settings.security.contextLoadPolicy spans), r), after) := by
  unfold ofRegistry
  rw [Action.bind_eq]
  rcases (r.get providers .authenticator settings) outer scene with ⟨⟨first, r⟩, after⟩
  cases first with
  | error e => rfl
  | ok authenticator =>
    simp only
    rw [Action.bind_eq]
    rcases (r.get providers .contextHandler settings) outer after with ⟨⟨second, r⟩, last⟩
    cases second <;> rfl

/-- The failure to find the providers of an establisher keeps the server from starting. -/
theorem Establisher.ofRegistry_isStartupFatal {r : Registry} {outer : List String} {scene : Scene σ}
    {e : Error}
    (failed : ((ofRegistry providers r settings spans) outer scene).1.1 = .error e) :
    e.isStartupFatal = true := by
  rw [ofRegistry_eq] at failed
  cases first : (r.get providers .authenticator settings) outer scene with
  | mk answered after =>
    obtain ⟨answer, r'⟩ := answered
    rw [first] at failed
    cases answer with
    | error e' =>
      obtain rfl : e' = e := Except.error.inj failed
      exact Registry.get_isStartupFatal (congrArg (·.1.1) first)
    | ok authenticator =>
      cases second : (r'.get providers .contextHandler settings) outer after with
      | mk answered last =>
        obtain ⟨answer, r''⟩ := answered
        simp only [second] at failed
        cases answer with
        | error e' =>
          obtain rfl : e' = e := Except.error.inj failed
          exact Registry.get_isStartupFatal (congrArg (·.1.1) second)
        | ok p => cases failed

/-! ## The promise -/

namespace Resolution

/-- What is promised of the provider of a tag: `uses` are the calls of providers, `result` is what
comes of them, and `reported` is the scene that looking through the candidates leaves. -/
structure Exact (providers : Providers σ) (kind : ExtensionKind) (tag : String)
    (candidates : List Candidate) (settings : Settings) (spans : List String) (reported : Scene σ)
    (uses : List ProviderUse) (result : Except Error ProviderId) : Prop where
  /-- Nobody is called, or one provider is made, of the one candidate that can serve the tag, and is
  set up once with the given settings. -/
  course : Course providers kind tag candidates settings spans reported uses result
  /-- A tag that is not blank is resolved if one candidate can serve it, whose provider is set up. -/
  ok_iff : ∀ p, result = .ok p ↔
    Text.allBlank tag = false ∧ ∃ c factory made after, Candidate.serving tag candidates = [c] ∧
      c.factory = some factory ∧ (providers.construct factory) spans reported = (p, made) ∧
        (providers.setup p settings).outcome spans made = (.ok (), after)
  /-- A failure tells the kind and the tag, and keeps the server from starting. -/
  fails : ∀ e, result = .error e →
    (∃ message, e.reason? = some (.extensionUnresolved kind tag message)) ∧ e.isStartupFatal = true
  /-- Behind a failure is the failure of the setup, if that is what failed. -/
  cause_iff : ∀ e e', result = .error e →
    (e.cause = .error e' ↔ ∃ p, .setup p settings (.error e') ∈ uses)
  /-- Otherwise nothing is behind it. -/
  uncaused : ∀ e, result = .error e → (∀ p e', .setup p settings (.error e') ∉ uses) →
    e.cause = .unknown

theorem Course.exact {reported : Scene σ} {uses : List ProviderUse}
    {result : Except Error ProviderId}
    (course : Course providers kind tag candidates settings spans reported uses result) :
    Exact providers kind tag candidates settings spans reported uses result where
  course := course
  ok_iff _ := course.eq_ok_iff
  fails e failed := by
    obtain ⟨message, told⟩ := course.failure_of_error failed
    rw [told]
    exact ⟨⟨message, rfl⟩, rfl⟩
  cause_iff e e' failed := by
    rcases course.cause_eq failed with ⟨unknown, rfl⟩ | ⟨factory, p, e'', behind, rfl⟩
    · simp [unknown]
    · simp [behind, eq_comm]
  uncaused e failed silent := by
    rcases course.cause_eq failed with ⟨unknown, -⟩ | ⟨factory, p, e', -, rfl⟩
    · exact unknown
    · exact absurd (by simp) (silent p e')

/-- **What `resolve` promises.**  Whatever the candidates are and however providers behave, the
promise is kept, and watching the providers changes nothing.  It is kept for other arrangements of
the candidates with the same finding, and with the same result when providers do not look at what was
reported.  When an establisher cannot have its providers, the server does not start. -/
theorem resolve_exact (providers : Providers σ) (kind : ExtensionKind) (tag : String)
    (candidates : List Candidate) (settings : Settings) (spans : List String) (scene : Scene σ) :
    let lone := (resolve providers kind tag candidates settings).outcome spans scene
    let seen := (resolve providers.watched kind tag candidates settings).outcome spans
      (Watched.open_ scene)
    (seen.1 = lone.1 ∧ Watched.forget seen.2 = lone.2) ∧
      (∃ skipped, Exact providers kind tag candidates settings spans
        ⟨scene.outside, scene.events ++ skipped⟩ seen.2.outside.uses lone.1) ∧
        (∀ candidates', Rearranged tag candidates candidates' →
          (∀ finding, Finds tag candidates finding →
            ∃ finding', Finds tag candidates' finding' ∧ finding.Like finding') ∧
          (providers.Unheeding →
            let other := (resolve providers kind tag candidates' settings).outcome spans scene
            Like kind tag lone.1 other.1 ∧ lone.2.outside = other.2.outside)) ∧
          ∀ r outer e,
            ((Establisher.ofRegistry providers r settings spans) outer scene).1.1 = .error e →
              e.isStartupFatal = true := by
  intro lone seen
  obtain ⟨skipped, uses, result, after, course, lone_eq, seen_eq⟩ :=
    resolve_course providers kind tag candidates settings spans scene
  have lone_is : lone = _ := lone_eq
  have seen_is : seen = _ := seen_eq
  refine ⟨?_, ⟨skipped, ?_⟩, ?_, ?_⟩
  · rw [lone_is, seen_is]
    exact ⟨rfl, rfl⟩
  · rw [lone_is, seen_is]
    exact course.exact
  · intro candidates' arranged
    exact ⟨fun _ found => found.rearranged arranged,
      fun unheeding => resolve_rearranged unheeding kind settings spans scene arranged⟩
  · intro r outer e failed
    exact Establisher.ofRegistry_isStartupFatal failed

/-! ### Trying it out -/

/-- Providers that are numbered as they are made, of which the first cannot be set up. -/
def fleet : Providers Nat where
  construct := fun _ => consult fun made => (⟨made⟩, made + 1)
  setup := fun p _ => .consult fun made => (if p.number = 0 then .error .unreadable else .ok (), made)
  close := fun _ => pure ()
  authenticate := fun _ _ _ => pure []
  load := fun _ attributes _ => pure (.ok (), attributes)

theorem fleet_unheeding : fleet.Unheeding where
  construct told told' factory := by
    intro spans a b alike
    have same : a.outside = b.outside := alike.outside
    exact ⟨congrArg ProviderId.mk same, congrArg (· + 1) same, alike.events⟩
  setup told told' p settings := by
    apply Attempt.Alike.of_outcome
    intro spans a b alike
    exact ⟨rfl, alike.outside, alike.events⟩

/-- One candidate for the tag `ldap`, and two that cannot serve it. -/
def motley : List Candidate :=
  [⟨"Plain", none, some (.custom 1)⟩, ⟨"Directory", some "LDAP", some (.custom 2)⟩,
    ⟨"Absent", some "ldap", none⟩]

/-- The candidate is found by its tag in other letters, in the other order too; only when the first
provider was made before can the next be set up. -/
theorem resolve_exact_motley :
    let settings := Settings.default
    let resolved := fun made => (resolve fleet .authenticator "ldap" motley settings).outcome []
      ⟨made, []⟩
    (resolved 1).1 = .ok ⟨1⟩ ∧
      (resolved 0).1 = .error (failure .authenticator "ldap"
        (setupFailed .authenticator "Directory") (.error .unreadable)) ∧
      Like .authenticator "ldap" (resolved 1).1 ((resolve fleet .authenticator "ldap"
        motley.reverse settings).outcome [] ⟨1, []⟩).1 := by
  intro settings resolved
  refine ⟨rfl, rfl, ?_⟩
  obtain ⟨-, -, arranged, -⟩ :=
    resolve_exact fleet .authenticator "ldap" motley settings [] ⟨1, []⟩
  exact ((arranged _ (.permuted motley.reverse_perm.symm)).2 fleet_unheeding).1

end Resolution

end QuerySession
