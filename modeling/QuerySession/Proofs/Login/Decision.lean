import QuerySession.Proofs.Login.Rejection
import QuerySession.Proofs.Login.Setups

/-!
# Who is let in

A login with an authenticator that was set up goes by the setup in force and by what comes over the
wire.  The user is let in by an answer of success that comes with a token that can be read, of which
the last counts that stands under the name of the settings, in letters of any case; or by one that
comes without a token, where the settings accept this.  Nothing is sent when no setup succeeded, or
when the user or the password cannot stand in a header field.

The exchange with the endpoint is read off a run in which the wire is tapped, which answers as the run
without.

## Main Definitions

* `Endpoint.Login` — the exchange that a login is made of, and what comes of it
* `SetupCall.Grants`, `SetupCall.Decides` — the decision, by the settings of a setup
* `HttpLogin.Decided` — what is promised of a login after setups

## Main Results

* `HttpLogin.trial_course` — the exchange, by the setup in force
* `HttpLogin.trial_tapped` — tapping the wire changes nothing
* `HttpLogin.trial_decided` — the promise is kept
-/

namespace QuerySession

open Net

variable {σ : Type} {parser : UrlParser}

/-! ## What is sent, and what comes back -/

namespace Endpoint

variable {e : Endpoint} {user password : String}

/-- A request can be made of texts that may be sent as values of header fields. -/
theorem request_eq_ok_iff {request : LoginRequest} : e.request user password = .ok request ↔
    isHeaderValue user = true ∧ isHeaderValue password = true ∧ request =
      ⟨e.address, e.timeoutSeconds, [(e.userHeader, user), (e.passwordHeader, password)]⟩ := by
  unfold Endpoint.request
  cases isHeaderValue user
  · simp
  · cases isHeaderValue password
    · simp
    · simp [eq_comm]

/-- An answer lets the user in if it is one of success, and either comes with a token that can be
read, or with none where this is accepted. -/
theorem judge_eq_ok_iff {answer : LoginAnswer} {token : Option String} :
    e.judge answer = .ok token ↔ (200 ≤ answer.status ∧ answer.status < 300) ∧
      ((∃ text, e.lastToken? answer = some text ∧ isReadable text = true ∧ token = some text) ∨
        (e.lastToken? answer = none ∧ e.missingToken = .accept ∧ token = none)) := by
  unfold judge
  by_cases failing : answer.status < 200 ∨ 300 ≤ answer.status
  · rw [if_pos failing]
    have outside : ¬ (200 ≤ answer.status ∧ answer.status < 300) := by omega
    simp [outside]
  · rw [if_neg failing]
    have inside : 200 ≤ answer.status ∧ answer.status < 300 := by omega
    simp only [inside, and_self, true_and]
    cases e.lastToken? answer with
    | some text =>
      cases readable : isReadable text
      · simp [readable]
      · simp [readable, @eq_comm _ token]
    | none =>
      cases e.missingToken
      · simp [@eq_comm _ token]
      · simp

end Endpoint

/-- Names are the same if the texts that denote them are, up to ASCII case. -/
theorem Net.HeaderName.ofText?_eq_iff {written wanted : String} {name : HeaderName}
    (named : HeaderName.ofText? wanted = some name) :
    HeaderName.ofText? written = some name ↔
      isToken written.toList = true ∧ Text.equalUpToAsciiCase written wanted = true := by
  unfold HeaderName.ofText? at named ⊢
  split at named
  · obtain rfl := Option.some.inj named
    cases isToken written.toList <;>
      simp [Text.equalUpToAsciiCase, String.ofList_inj]
  · cases named

/-- The values of a field, by its name as it is read or as it is sent. -/
theorem RawAnswer.values_eq {fields : List (String × String)} {name : String} {wanted : HeaderName}
    (named : HeaderName.ofText? name = some wanted)
    (wellNamed : ∀ field ∈ fields, isToken field.1.toList = true) :
    ((fields.filterMap fun (written, value) => (HeaderName.ofText? written).map (·, value)).filter
        (·.1 = wanted)).map Prod.snd =
      (fields.filter fun field => Text.equalUpToAsciiCase field.1 name).map Prod.snd := by
  induction fields with
  | nil => rfl
  | cons field rest ih =>
    obtain ⟨written, value⟩ := field
    obtain ⟨token, later⟩ := List.forall_mem_cons.mp wellNamed
    have same : HeaderName.ofText? written = some wanted ↔ _ := HeaderName.ofText?_eq_iff named
    obtain ⟨own, denoted⟩ : ∃ own, HeaderName.ofText? written = some own := ⟨_, if_pos token⟩
    rw [denoted, Option.some_inj, and_iff_right token] at same
    by_cases equal : own = wanted
    · have kept : Text.equalUpToAsciiCase written name = true := same.mp equal
      simp [denoted, equal, kept, ih later]
    · have dropped : Text.equalUpToAsciiCase written name = false :=
        Bool.eq_false_iff.mpr fun kept => equal (same.mpr kept)
      simp [denoted, equal, dropped, ih later]

/-- The token in an answer is the last value that was sent under the name of its field. -/
theorem RawAnswer.lastToken?_of_read {raw : RawAnswer} {answer : LoginAnswer} {e : Endpoint}
    {name : String} (read : raw.read? = some answer)
    (named : HeaderName.ofText? name = some e.tokenHeader) :
    e.lastToken? answer = raw.last? name ∧ answer.status = raw.status := by
  unfold read? at read
  split at read
  · rename_i wellNamed
    obtain rfl := Option.some.inj read
    refine ⟨?_, rfl⟩
    unfold Endpoint.lastToken? last?
    rw [← List.getLast?_map, values_eq named (List.all_eq_true.mp wellNamed)]
  · cases read

/-- The decision about what came back. -/
def Endpoint.verdict (e : Endpoint) : Option LoginAnswer → Except LoginFault (Option String)
  | none => .error .unanswered
  | some answer => e.judge answer

namespace HttpLogin

variable {e : Endpoint} {network : Network σ} {user password : String} {spans : List String}
  {scene after : Scene σ}

/-- A login that cannot be sent is not. -/
theorem ask_of_fault {fault : LoginFault} (refused : e.request user password = .error fault)
    (network : Network σ) (spans : List String) (scene : Scene σ) :
    (ask network e user password) spans scene = (.error fault, scene) := by
  unfold ask
  rw [refused]
  rfl

/-- A login that can be sent is sent, and what comes back decides. -/
theorem ask_of_request {request : LoginRequest} {answer : Option LoginAnswer}
    (ready : e.request user password = .ok request)
    (answered : (network.send request) spans scene = (answer, after)) :
    (ask network e user password) spans scene = (e.verdict answer, after) := by
  unfold ask
  rw [ready]
  simp only
  rw [Action.bind_eq, answered]
  cases answer <;> rfl

/-- A login comes to attributes if the endpoint decides for the user. -/
theorem settle_eq_ok_iff {user : String} {verdict : Except LoginFault (Option String)}
    {granted : List OptionValue} :
    settle user verdict = .ok granted ↔
      ∃ token, verdict = .ok token ∧ attributes token = granted := by
  cases verdict <;> simp [settle]

end HttpLogin

/-! ## A login after setups -/

/-- The exchange with an endpoint that a login is made of, and what comes of it. -/
inductive Endpoint.Login (e : Endpoint) (user password : String) :
    List (LoginRequest × Option RawAnswer) → Except Error (List OptionValue) → Prop
  /-- The user or the password cannot be sent, and nothing is. -/
  | unsendable {fault : LoginFault} (refused : e.request user password = .error fault) :
      Login e user password [] (.error (.loginRejected user HttpLogin.component))
  /-- What comes back decides, if something does. -/
  | sent {request : LoginRequest} (ready : e.request user password = .ok request)
      (answer : Option RawAnswer) :
      Login e user password [(request, answer)]
        (HttpLogin.settle user (e.verdict (answer.bind RawAnswer.read?)))

namespace HttpLogin

variable {calls : List SetupCall} {call : SetupCall} {e : Endpoint}

/-- The login of an authenticator that was never set up. -/
def unready : Error :=
  .plain (.internal "HTTP authenticator used before setup")
    ((Context.of component).during "authenticate")

/-- Nothing is sent when all setups failed. -/
theorem trial_of_failing (failing : ∀ call ∈ calls, ¬ call.Sound parser) (network : Network σ)
    (user password : String) (spans : List String) (scene : Scene σ) :
    (trial parser network calls user password).outcome spans scene = (.error unready, scene) := by
  have setting : (fresh.setUpAll parser calls) spans scene = (fresh, scene) :=
    (setUpAll_of_failing fresh failing spans σ scene).trans (by rw [List.append_nil])
  unfold trial
  rw [Attempt.bind_eq, Attempt.lift_eq, setting]
  rfl

/-- A login goes by the setup in force. -/
theorem trial_of_inForce (inForce : SetupCall.InForce parser calls call e) (user password : String)
    (spans : List String) :
    ∃ events, ∀ {σ : Type} (network : Network σ) (scene : Scene σ),
      (trial parser network calls user password).outcome spans scene =
        (announce user ((ask network e user password) spans
            ⟨scene.outside, scene.events ++ events⟩).1).outcome spans
          ((ask network e user password) spans ⟨scene.outside, scene.events ++ events⟩).2 := by
  obtain ⟨events, setting⟩ := setUpAll_of_inForce fresh inForce spans
  refine ⟨events, fun {σ} network scene => ?_⟩
  have set : (fresh.setUpAll parser calls) spans scene = _ := setting σ scene
  unfold trial
  rw [Attempt.bind_eq, Attempt.lift_eq, set]
  exact authenticate_eq ..

/-- **The exchange of a login**, and that the result and the rest of the outside are the same whether
the wire is tapped or not. -/
theorem trial_course (inForce : SetupCall.InForce parser calls call e) (wire : Wire σ)
    (user password : String) (spans : List String) (scene : Scene σ) :
    ∃ exchanges result after, e.Login user password exchanges result ∧
      (trial parser wire.network calls user password).outcome spans scene = (result, after) ∧
        (trial parser wire.tapped.network calls user password).outcome spans
            (Tapped.open_ scene) = (result, ⟨⟨after.outside, exchanges⟩, after.events⟩) := by
  obtain ⟨events, each⟩ := trial_of_inForce inForce user password spans
  have lone := each wire.network scene
  have seen := each wire.tapped.network (Tapped.open_ scene)
  cases ready : e.request user password with
  | error fault =>
    obtain ⟨last, announcing⟩ := announce_reports user (.error fault) spans
    rw [ask_of_fault ready] at lone seen
    exact ⟨_, _, _, .unsendable ready, lone.trans (announcing σ _),
      seen.trans (announcing (Tapped σ) _)⟩
  | ok request =>
    cases answered : (wire.send request) spans ⟨scene.outside, scene.events ++ events⟩ with
    | mk answer after =>
      have tapped : (wire.tapped.send request) spans
          ⟨(Tapped.open_ scene).outside, (Tapped.open_ scene).events ++ events⟩ = _ :=
        Wire.tapped_eq answered
      obtain ⟨last, announcing⟩ :=
        announce_reports user (e.verdict (answer.bind RawAnswer.read?)) spans
      rw [ask_of_request ready (Wire.network_eq answered)] at lone
      rw [ask_of_request ready (Wire.network_eq tapped)] at seen
      exact ⟨_, _, _, .sent ready answer, lone.trans (announcing σ _),
        seen.trans (announcing (Tapped σ) _)⟩

end HttpLogin

/-! ## The promise -/

/-- What an endpoint grants by an answer, by the settings of a setup: the last token under its name,
if it can be read, or nothing if there is none and this is accepted. -/
inductive SetupCall.Grants (call : SetupCall) (answer : RawAnswer) : List OptionValue → Prop
  | token {text : String}
      (last : answer.last? call.settings.security.endpoint.sessionIdHeader = some text)
      (readable : isReadable text = true) :
      Grants call answer [⟨.session, HttpLogin.tokenOption, .text text⟩]
  | tokenless (absent : answer.last? call.settings.security.endpoint.sessionIdHeader = none)
      (accepted : call.settings.security.missingTokenPolicy = .accept) :
      Grants call answer []

/-- What is promised of a login with the endpoint that a setup left. -/
structure SetupCall.Decides (call : SetupCall) (e : Endpoint) (user password : String)
    (exchanges : List (LoginRequest × Option RawAnswer))
    (result : Except Error (List OptionValue)) : Prop where
  /-- One request is sent, of the user and the password under the names of the setup, if they may be
  sent; else none is. -/
  sent : if isHeaderValue user = true ∧ isHeaderValue password = true then
      ∃ answer, exchanges = [(⟨e.address, e.timeoutSeconds,
        [(e.userHeader, user), (e.passwordHeader, password)]⟩, answer)]
    else exchanges = []
  /-- The user is let in exactly by an answer of success that can be read and grants something. -/
  ok_iff : ∀ attributes, result = .ok attributes ↔
    isHeaderValue user = true ∧ isHeaderValue password = true ∧ ∃ request answer,
      exchanges = [(request, some answer)] ∧ answer.wellNamed = true ∧
        (200 ≤ answer.status ∧ answer.status < 300) ∧ call.Grants answer attributes
  /-- Everybody else gets the same error. -/
  rejects : ∀ err, result = .error err → err = .loginRejected user HttpLogin.component

namespace SetupCall

variable {call : SetupCall} {e : Endpoint}

/-- The endpoint decides for the user by what is sent as it would by the settings. -/
theorem Describes.verdict_iff (d : call.Describes parser e) {raw : RawAnswer}
    {granted : List OptionValue} :
    (∃ token, e.verdict raw.read? = .ok token ∧ HttpLogin.attributes token = granted) ↔
      raw.wellNamed = true ∧ (200 ≤ raw.status ∧ raw.status < 300) ∧ call.Grants raw granted := by
  cases read : raw.read? with
  | none =>
    have unnamed : raw.wellNamed ≠ true := by
      intro wellNamed
      rw [RawAnswer.read?, if_pos wellNamed] at read
      cases read
    simp [Endpoint.verdict, unnamed]
  | some answer =>
    have wellNamed : raw.wellNamed = true := by
      by_contra unnamed
      rw [RawAnswer.read?, if_neg unnamed] at read
      cases read
    obtain ⟨last, status⟩ := RawAnswer.lastToken?_of_read read d.tokenHeader
    show (∃ token, e.judge answer = .ok token ∧ _) ↔ _
    simp only [Endpoint.judge_eq_ok_iff, last, status, d.missingToken, wellNamed, true_and]
    constructor
    · rintro ⟨token, ⟨success, ⟨text, there, readable, rfl⟩ | ⟨absent, accepted, rfl⟩⟩, rfl⟩
      · exact ⟨success, .token there readable⟩
      · exact ⟨success, .tokenless absent accepted⟩
    · rintro ⟨success, grants⟩
      cases grants with
      | token there readable => exact ⟨_, ⟨success, .inl ⟨_, there, readable, rfl⟩⟩, rfl⟩
      | tokenless absent accepted => exact ⟨_, ⟨success, .inr ⟨absent, accepted, rfl⟩⟩, rfl⟩

/-- A login with the endpoint of a setup is decided by the settings of the setup. -/
theorem Describes.decides (d : call.Describes parser e) {user password : String}
    {exchanges : List (LoginRequest × Option RawAnswer)} {result : Except Error (List OptionValue)}
    (login : e.Login user password exchanges result) :
    call.Decides e user password exchanges result := by
  cases login with
  | unsendable refused =>
    have unfit : ¬ (isHeaderValue user = true ∧ isHeaderValue password = true) := by
      rintro ⟨user_fits, password_fits⟩
      have ready : e.request user password = .ok _ :=
        Endpoint.request_eq_ok_iff.mpr ⟨user_fits, password_fits, rfl⟩
      cases refused.symm.trans ready
    refine ⟨by rw [if_neg unfit], fun granted => ?_, fun err failed => ?_⟩
    · constructor
      · intro done
        cases done
      · rintro ⟨user_fits, password_fits, -⟩
        exact absurd ⟨user_fits, password_fits⟩ unfit
    · exact (Except.error.inj failed).symm
  | sent ready answer =>
    obtain ⟨user_fits, password_fits, rfl⟩ := Endpoint.request_eq_ok_iff.mp ready
    refine ⟨?_, fun granted => ?_, fun err failed => HttpLogin.settle_error failed⟩
    · rw [if_pos ⟨user_fits, password_fits⟩]
      exact ⟨answer, rfl⟩
    · rw [HttpLogin.settle_eq_ok_iff]
      cases answer with
      | none => simp [Endpoint.verdict]
      | some raw =>
        rw [Option.bind_some, d.verdict_iff]
        simp [user_fits, password_fits]

end SetupCall

namespace HttpLogin

/-- What is promised of a login after setups. -/
structure Decided (parser : UrlParser) (calls : List SetupCall) (user password : String)
    (exchanges : List (LoginRequest × Option RawAnswer))
    (result : Except Error (List OptionValue)) : Prop where
  /-- Either all setups failed, or the last that did not is in force. -/
  covered : (∀ call ∈ calls, ¬ call.Sound parser) ∨
    ∃ call e, SetupCall.InForce parser calls call e
  /-- When all setups failed, nothing is sent, and the authenticator is not ready. -/
  unready : (∀ call ∈ calls, ¬ call.Sound parser) → exchanges = [] ∧ result = .error unready
  /-- Otherwise the setup in force decides. -/
  ready : ∀ call e, SetupCall.InForce parser calls call e →
    call.Decides e user password exchanges result

/-- Tapping the wire changes nothing. -/
theorem trial_tapped (parser : UrlParser) (wire : Wire σ) (calls : List SetupCall)
    (user password : String) (spans : List String) (scene : Scene σ) :
    let lone := (trial parser wire.network calls user password).outcome spans scene
    let seen := (trial parser wire.tapped.network calls user password).outcome spans
      (Tapped.open_ scene)
    seen.1 = lone.1 ∧ Tapped.forget seen.2 = lone.2 := by
  intro lone seen
  rcases SetupCall.exists_inForce calls with failing | ⟨call, e, inForce⟩
  · have lone_eq : lone = _ := trial_of_failing failing wire.network user password spans scene
    have seen_eq : seen = _ :=
      trial_of_failing failing wire.tapped.network user password spans (Tapped.open_ scene)
    rw [lone_eq, seen_eq]
    exact ⟨rfl, rfl⟩
  · obtain ⟨exchanges, result, after, -, lone_eq, seen_eq⟩ :=
      trial_course inForce wire user password spans scene
    have lone_is : lone = _ := lone_eq
    have seen_is : seen = _ := seen_eq
    rw [lone_is, seen_is]
    exact ⟨rfl, rfl⟩

/-- **Who is let in.**  Whatever parser reads the addresses, whatever setups were tried and whatever
the endpoint sends, the promise is kept; tapping the wire changes nothing, and neither would leaving
out the setups that failed. -/
theorem trial_decided (parser : UrlParser) (wire : Wire σ) (calls : List SetupCall)
    (user password : String) (spans : List String) (scene : Scene σ) :
    let lone := (trial parser wire.network calls user password).outcome spans scene
    let seen := (trial parser wire.tapped.network calls user password).outcome spans
      (Tapped.open_ scene)
    (seen.1 = lone.1 ∧ Tapped.forget seen.2 = lone.2) ∧
      Decided parser calls user password seen.2.outside.exchanges lone.1 ∧
        (trial parser wire.network (calls.filter (·.Sound parser)) user password).outcome spans
          scene = lone := by
  intro lone seen
  refine ⟨trial_tapped parser wire calls user password spans scene,
    ⟨SetupCall.exists_inForce calls, ?_, ?_⟩, ?_⟩
  · intro failing
    have lone_eq : lone = _ := trial_of_failing failing wire.network user password spans scene
    have seen_eq : seen = _ :=
      trial_of_failing failing wire.tapped.network user password spans (Tapped.open_ scene)
    rw [lone_eq, seen_eq]
    exact ⟨rfl, rfl⟩
  · intro call e inForce
    obtain ⟨exchanges, result, after, login, lone_eq, seen_eq⟩ :=
      trial_course inForce wire user password spans scene
    obtain ⟨-, -, -, d, -⟩ := inForce
    have lone_is : lone = _ := lone_eq
    have seen_is : seen = _ := seen_eq
    rw [lone_is, seen_is]
    exact d.decides login
  · have same : trial parser wire.network (calls.filter (·.Sound parser)) user password =
        trial parser wire.network calls user password := by
      unfold trial
      rw [setUpAll_filter]
    rw [same]

/-- Settings of an endpoint. -/
def settingsWith (url : String) (seconds : Nat) : Settings :=
  { Settings.default with security := { SecuritySettings.default with
      endpoint := { EndpointSettings.default with url, timeoutSeconds := seconds } } }

/-- An address with user information. -/
def guarded : Url :=
  ⟨"http", "gate", some "key", some "[::1]", some 8080, "/login", some "v=2", none⟩

/-- A parser that knows this address, and a scheme without more. -/
def guardedParser : UrlParser where
  parse text :=
    if text = "http://gate:key@[::1]:8080/login?v=2" then .ok guarded else .error "empty host"

/-- A wire on which two tokens come back, under names in different letters. -/
def twice : Wire Unit where
  send _ := pure (some ⟨204, [("X-Session-Id", "first"), ("x-session-ID", "second")]⟩)

/-- Setups of which the second succeeds; the others have no host, no time and no client. -/
def wavering : List SetupCall :=
  [⟨settingsWith "" 5, none⟩, ⟨settingsWith "gate:key@[::1]:8080/login?v=2" 5, none⟩,
    ⟨settingsWith "gate:key@[::1]:8080/login?v=2" 0, none⟩,
    ⟨settingsWith "gate:key@[::1]:8080/login?v=2" 7, some "no certificates"⟩]

/-- The request goes to the whole address of the setup in force, and the last token counts. -/
theorem trial_decided_twice :
    let seen := (trial guardedParser twice.tapped.network wavering "alice" "open").outcome []
      (Tapped.open_ ⟨(), []⟩)
    seen.1.toOption = some [⟨.session, tokenOption, .text "second"⟩] ∧
      seen.2.outside.exchanges.map Prod.fst =
        [⟨guarded, 5, [(⟨"x-user"⟩, "alice"), (⟨"x-password"⟩, "open")]⟩] ∧
        Decided guardedParser wavering "alice" "open" seen.2.outside.exchanges seen.1 := by
  obtain ⟨⟨same, -⟩, decided, -⟩ :=
    trial_decided guardedParser twice wavering "alice" "open" [] ⟨(), []⟩
  exact ⟨by decide +kernel, by decide +kernel, same ▸ decided⟩

end HttpLogin

end QuerySession
