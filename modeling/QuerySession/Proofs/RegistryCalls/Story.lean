import QuerySession.Proofs.RegistryCalls.Single

/-!
# The story of a call on a registry

However the calls overlap, the steps of one call alone read like those of a program.  A call that
needs a provider finds it, or has no candidate for it, or makes one and waits for its setup
(`Outcome`).  A call that needs an establisher does this for the authenticator, and for the context
provider only if it has the authenticator.  A call that closes goes through both kinds, whatever the
first provider answers.  `Reached.story` says that no schedule and no answer makes a call do
anything else.

What happens has its reason in what happened before: `Reached.grounded`.
-/

namespace QuerySession.RegistryCalls

variable {offered : ExtensionKind → List Candidate} {t u : RegistryCalls} {i : Nat}

/-! ### How a call goes -/

/-- What became of the need for a provider. -/
inductive Outcome where
  /-- It was there already. -/
  | found (p : ProviderId)
  /-- There was not one candidate that fits. -/
  | unmatched (message : String)
  /-- It was made from a candidate, and answered its setup. -/
  | tried (name : String) (factory : Factory) (p : ProviderId) (answer : Except Error Unit)

namespace Outcome

/-- What the call does. -/
def trace (i : Nat) (kind : ExtensionKind) (settings : Settings) : Outcome → List Happening
  | found p => [.found i kind p]
  | unmatched message => [.unmatched i kind settings message]
  | tried name factory p answer =>
    [.made i kind settings name factory p, .setUp i kind p answer]

/-- What the call has then. -/
def result (kind : ExtensionKind) (settings : Settings) : Outcome → Except Error ProviderId
  | found p => .ok p
  | unmatched message => .error (unmatchedError kind settings message)
  | tried name _ p answer => setUpResult kind settings name p answer

end Outcome

/-- What a call did before it came to the need for a provider. -/
def Opening (i : Nat) (settings : Settings) (h : List Happening) : Aim → Prop
  | .get kind => h = [.called i (.get kind settings)]
  | .authenticator spans => h = [.called i (.establish settings spans)]
  | .contextHandler authenticator spans => ∃ first : Outcome,
      first.result .authenticator settings = .ok authenticator ∧
      h = .called i (.establish settings spans) :: first.trace i .authenticator settings

/-- What a call does that closes the provider of a kind, if there is one. -/
def release (i : Nat) (kind : ExtensionKind) : Option (ProviderId × Except Error Unit) →
    List Happening
  | none => [.passed i kind]
  | some (p, answer) => [.closeSent i kind p, .closeAnswered i kind p answer]

/-- What a call did before it came to the provider of a kind, to close it. -/
def Closing (i : Nat) (h : List Happening) : ExtensionKind → Prop
  | .authenticator => h = [.called i .close]
  | .contextHandler => ∃ first, h = .called i .close :: release i .authenticator first

/-- What a call did so far, by the stage it stands in. -/
inductive Story (i : Nat) : Stage → List Happening → Prop
  | asking {h : List Happening} {aim : Aim} {settings : Settings}
      (opening : Opening i settings h aim) : Story i (.asking aim settings) h
  | setting {h : List Happening} {aim : Aim} {settings : Settings} {name : String} {p : ProviderId}
      (factory : Factory) (opening : Opening i settings h aim) :
      Story i (.setting aim settings name p) (h ++ [.made i aim.kind settings name factory p])
  | got {kind : ExtensionKind} (settings : Settings) (o : Outcome) :
      Story i (.got kind (o.result kind settings))
        (.called i (.get kind settings) :: o.trace i kind settings)
  /-- There is no authenticator, and the context provider is not looked for. -/
  | refused (settings : Settings) (spans : List String) (first : Outcome) {e : Error}
      (failed : first.result .authenticator settings = .error e) :
      Story i (.established (.error e))
        (.called i (.establish settings spans) :: first.trace i .authenticator settings)
  | established (settings : Settings) (spans : List String) (first second : Outcome)
      {authenticator : ProviderId}
      (found : first.result .authenticator settings = .ok authenticator) :
      Story i
        (.established ((second.result .contextHandler settings).map fun p =>
          Establisher.make authenticator (some p) settings.security.contextLoadPolicy spans))
        (.called i (.establish settings spans) :: first.trace i .authenticator settings ++
          second.trace i .contextHandler settings)
  | closing {h : List Happening} {kind : ExtensionKind} (opening : Closing i h kind) :
      Story i (.closing kind) h
  | releasing {h : List Happening} {kind : ExtensionKind} {p : ProviderId}
      (opening : Closing i h kind) :
      Story i (.releasing kind p) (h ++ [.closeSent i kind p])
  | closed (first second : Option (ProviderId × Except Error Unit)) :
      Story i .closed (.called i .close :: release i .authenticator first ++
        release i .contextHandler second)

/-! ### Every call goes like that -/

variable {h : List Happening}

/-- A call that was made stands at its beginning. -/
theorem Story.first (request : Request) : Story i (.first request) [.called i request] := by
  cases request with
  | get kind settings => exact .asking rfl
  | establish settings spans => exact .asking rfl
  | close => exact .closing rfl

/-- What a call does when its need has an outcome. -/
theorem Story.after {aim : Aim} {settings : Settings} (opening : Opening i settings h aim)
    (o : Outcome) : Story i (.after settings aim (o.result aim.kind settings))
      (h ++ o.trace i aim.kind settings) := by
  cases aim with
  | get kind =>
    cases opening
    exact .got settings o
  | authenticator spans =>
    cases opening
    show Story i (.after settings (.authenticator spans) (o.result .authenticator settings)) _
    cases result : o.result .authenticator settings with
    | ok p => exact .asking ⟨o, result, rfl⟩
    | error e => exact .refused settings spans o result
  | contextHandler authenticator spans =>
    obtain ⟨first, found, rfl⟩ := opening
    have story := @Story.established i settings spans first o _ found
    show Story i (.after settings (.contextHandler authenticator spans)
      (o.result .contextHandler settings)) _
    cases result : o.result .contextHandler settings with
    | ok p => rwa [result] at story
    | error e => rwa [result] at story

/-- What a call does when it has closed the provider of a kind, or there was none. -/
theorem Story.afterClose {kind : ExtensionKind} (opening : Closing i h kind)
    (done : Option (ProviderId × Except Error Unit)) :
    Story i (.afterClose kind) (h ++ release i kind done) := by
  cases kind with
  | authenticator =>
    cases opening
    exact .closing ⟨done, rfl⟩
  | contextHandler =>
    obtain ⟨first, rfl⟩ := opening
    exact .closed first done

/-- The own history of a call that goes on grows by what it does. -/
theorem Shift.story {old new : Stage} {e : Happening} (shift : Shift t i old e new)
    (story : Story i old h) : Story i new (h ++ [e]) := by
  cases shift with
  | @found aim settings p full =>
    cases story with
    | asking opening => exact .after opening (.found p)
  | @unmatched aim settings message empty turn chosen =>
    cases story with
    | asking opening => exact .after opening (.unmatched message)
  | @made aim settings name factory p empty turn chosen new =>
    cases story with
    | asking opening => exact .setting factory opening
  | @setUp aim settings name p answer =>
    cases story with
    | setting factory opening =>
      rw [List.append_assoc]
      exact .after opening (.tried name factory p answer)
  | passed empty =>
    cases story with
    | closing opening => exact .afterClose opening none
  | closeSent full =>
    cases story with
    | closing opening => exact .releasing opening
  | @closeAnswered kind p answer =>
    cases story with
    | releasing opening =>
      rw [List.append_assoc]
      exact .afterClose opening (some (p, answer))

/-- Nothing happens to calls that were not made. -/
theorem Reached.own_eq_nil (h : Reached offered t) (beyond : t.stages.length ≤ i) :
    own i t.history = [] := by
  induction h using Reached.induction with
  | start spans h => rfl
  | step before after taken ih =>
    rw [taken.history_eq, own_append, own_singleton]
    cases taken with
    | called request =>
      rw [join, List.length_append, List.length_singleton] at beyond
      rw [ih (by omega), if_neg (by simp [Happening.caller?]; omega), List.nil_append]
    | registered kind c => exact (List.append_nil _).trans (ih beyond)
    | moved at_ shift =>
      have bound := (List.getElem?_eq_some_iff.mp at_).1
      rw [put, List.length_set] at beyond
      rw [ih beyond, if_neg (by rw [shift.caller?_eq]; simp; omega), List.nil_append]

/-- **The story of a call** is told by the stage it stands in. -/
theorem Reached.story (h : Reached offered t) {stage : Stage} (at_ : t.stages[i]? = some stage) :
    Story i stage (own i t.history) := by
  induction h using Reached.induction generalizing stage with
  | start spans h => cases at_
  | @step t u e before after taken ih =>
    rw [taken.history_eq, own_append, own_singleton]
    cases taken with
    | called request =>
      rcases getElem?_join at_ with earlier | ⟨rfl, rfl⟩
      · have bound := (List.getElem?_eq_some_iff.mp earlier).1
        rw [if_neg (by simp [Happening.caller?]; omega), List.append_nil]
        exact ih earlier
      · rw [before.own_eq_nil (Nat.le_refl _), Happening.caller?, if_pos rfl]
        exact .first request
    | registered kind c =>
      rw [if_neg (by simp [Happening.caller?]), List.append_nil]
      exact ih at_
    | @moved j old new _ atJ shift =>
      rw [getElem?_put atJ] at at_
      rw [shift.caller?_eq]
      by_cases same : j = i
      · subst same
        rw [if_pos rfl] at at_ ⊢
        cases at_
        exact shift.story (ih atJ)
      · rw [if_neg same] at at_
        rw [if_neg (by simpa using same), List.append_nil]
        exact ih at_

/-! ### Why things happen -/

/-- What is known of the time at which something happened, by what happened before. -/
def Grounded (offered : ExtensionKind → List Candidate) (before : List Happening) :
    Happening → Prop
  | .called i _ => own i before = []
  | .registered .. => True
  | .found _ kind p => p ∈ ready kind before
  | .unmatched _ kind settings message => ready kind before = [] ∧
      Resolution.select kind (settings.security.tagOf kind)
        (offered kind ++ registered kind before) = .error message
  | .made _ kind settings name factory p => ready kind before = [] ∧
      Resolution.select kind (settings.security.tagOf kind)
        (offered kind ++ registered kind before) = .ok (name, factory) ∧
      p ∉ made before
  | .setUp i kind p _ => ready kind before = [] ∧
      ∃ settings name factory, .made i kind settings name factory p ∈ before
  | .passed _ kind => ready kind before = []
  | .closeSent _ kind p => p ∈ ready kind before
  | .closeAnswered i kind p _ => .closeSent i kind p ∈ before

/-- What was seen of one call was seen. -/
theorem mem_of_mem_own {e : Happening} (mem : e ∈ own i h) : e ∈ h := (List.mem_filter.mp mem).1

/-- A step has its reason. -/
theorem Step.grounded {e : Happening} (reached : Reached offered t) (taken : Step t e u) :
    Grounded offered t.history e := by
  cases taken with
  | called request => exact reached.own_eq_nil (Nat.le_refl _)
  | registered kind c => trivial
  | @moved i old new _ at_ shift =>
    have story := reached.story at_
    cases shift with
    | found full => exact reached.provider?_eq_some_iff.mp full
    | @unmatched aim settings message empty turn chosen =>
      refine ⟨reached.provider?_eq_none_iff.mp empty, ?_⟩
      rw [← reached.candidates_eq]
      exact chosen
    | @made aim settings name factory p empty turn chosen new =>
      refine ⟨reached.provider?_eq_none_iff.mp empty, ?_, new⟩
      rw [← reached.candidates_eq]
      exact chosen
    | @setUp aim settings name p answer =>
      have turns := (reached.single aim.kind).turns
      have counted : 0 < t.setters aim.kind :=
        List.countP_pos_iff.mpr ⟨_, List.mem_of_getElem? at_, decide_eq_true rfl⟩
      refine ⟨List.eq_nil_of_length_eq_zero (by omega), settings, name, ?_⟩
      generalize seen : own i t.history = h at story
      cases story with
      | setting factory opening =>
        exact ⟨factory, @mem_of_mem_own i _ _ (by simp [seen])⟩
    | passed empty => exact reached.provider?_eq_none_iff.mp empty
    | closeSent full => exact reached.provider?_eq_some_iff.mp full
    | @closeAnswered kind p answer =>
      generalize seen : own i t.history = h at story
      cases story with
      | releasing opening => exact @mem_of_mem_own i _ _ (by simp [seen])

/-- **Whatever happens has its reason** in what happened before. -/
theorem Reached.grounded (h : Reached offered t) : Throughout (Grounded offered) t.history := by
  induction h using Reached.induction with
  | start spans h => exact throughout_nil _
  | step before after taken ih =>
    rw [taken.history_eq]
    exact throughout_concat.mpr ⟨ih, taken.grounded before⟩

/-- What holds of something that happened, by what happened up to now. -/
theorem Reached.grounded_of_mem (h : Reached offered t) {e : Happening} (mem : e ∈ t.history) :
    ∃ before after, t.history = before ++ e :: after ∧ Grounded offered before e := by
  obtain ⟨before, after, split⟩ := List.append_of_mem mem
  exact ⟨before, after, split, h.grounded before e after split⟩

/-- Whoever found a provider, or had it closed, met one that was set up. -/
theorem Reached.ready_of_met (h : Reached offered t) {kind : ExtensionKind} {p : ProviderId}
    {e : Happening} (mem : e ∈ t.history)
    (met : e = .found i kind p ∨ e = .closeSent i kind p) : p ∈ ready kind t.history := by
  obtain ⟨before, after, split, reason⟩ := h.grounded_of_mem mem
  rw [split]
  rcases met with rfl | rfl <;> exact mem_ready_append reason _

end QuerySession.RegistryCalls
