import QuerySession.Proofs.Discretion
import QuerySession.Proofs.Establishment
import QuerySession.Security.HttpLogin

/-!
# What a password reaches

A password is handed to the authenticator when the session is established, and reaches nobody else.
If the authenticator answers two passwords in the same way, the two visits have the same answers and
the same events, whatever is asked of the two sessions.

The authenticator itself is outside, and may tell the passwords apart in ways that do not show in
its answer: in what it remembers, and in what it reports.  So the visits are compared up to a
tolerance, with which nothing has to be assumed of the authenticator but its answer.  The
authenticator that asks an HTTP endpoint hands the password on to the endpoint only.

## Main Definitions

* `SessionRequest.Alike` — requests that differ in the password only
* `Opening.Answered` — the authenticator answers both passwords in the same way
* `Services.Discreet` — what is promised of two visits

## Main Results

* `Establisher.establish_alike` — an established session differs in the password only
* `HttpLogin.authenticate_alike` — the HTTP authenticator answers as the endpoint does
* `Services.visit_discreet` — the promise is kept
-/

namespace QuerySession

variable {σ : Type} {t : Tolerance σ} {r r' : SessionRequest}

/-! ## Building -/

/-- Two requests that differ in the password only. -/
def SessionRequest.Alike (r r' : SessionRequest) : Prop :=
  ∃ pairs, SameBut Properties.IsPassword r.properties pairs ∧ r' = { r with properties := pairs }

namespace SessionRequest.Alike

/-- The session of such a request differs in the password only. -/
theorem ofRequest (alike : r.Alike r') (id : String) (credentials : Credentials) :
    (Session.ofRequest r id credentials).Alike (Session.ofRequest r' id credentials) := by
  obtain ⟨pairs, same, rfl⟩ := alike
  exact ⟨_, Properties.ofPairs_alike same, rfl⟩

/-- Building a session does not tell. -/
theorem build (alike : r.Alike r') (id : String) :
    Attempt.Alike t Session.Alike (Session.build r id) (Session.build r' id) := by
  have sessions := alike.ofRequest id
  obtain ⟨pairs, same, rfl⟩ := alike
  simp only [Session.build]
  split
  · exact .ofExcept (.error _)
  · refine Attempt.Alike.bind (.within (.bind (.lift (Properties.read_alike same)) ?_) _)
      fun _ _ (_ : () = ()) => .pure (sessions _)
    intro properties properties' known
    rw [known.size]
    exact .emit _ _ _

/-- What is reported when a session is built does not depend on the password. -/
theorem opening_eq (alike : r.Alike r') {id : String} {credentials : Credentials}
    {spans : List String} {opening opening' : List Event}
    (first : Attempt.Reports (fun _ => Session.build r id) spans
      (.ok (Session.ofRequest r id credentials)) opening)
    (second : Attempt.Reports (fun _ => Session.build r' id) spans
      (.ok (Session.ofRequest r' id credentials)) opening') : opening = opening' := by
  have built := (alike.build (t := .none) id spans ⟨(), []⟩ ⟨(), []⟩ ⟨rfl, .inl rfl⟩).2
  have one : (Session.build r id).outcome spans (⟨(), []⟩ : Scene Unit) = _ := first Unit ⟨(), []⟩
  have two : (Session.build r' id).outcome spans (⟨(), []⟩ : Scene Unit) = _ :=
    second Unit ⟨(), []⟩
  rw [one, two] at built
  exact built.events_eq rfl

theorem accepting (alike : r.Alike r') (e : Establisher) :
    (e.accepting r).Alike (e.accepting r') := by
  obtain ⟨pairs, same, rfl⟩ := alike
  unfold Establisher.accepting
  split <;> exact ⟨pairs, same, rfl⟩

/-- The same user is to be authenticated. -/
theorem userIn_eq (alike : r.Alike r') (connected : Credentials) :
    Establisher.userIn r connected = Establisher.userIn r' connected := by
  obtain ⟨pairs, same, rfl⟩ := alike
  have user : (Properties.ofPairs r.properties).find? Properties.user =
      (Properties.ofPairs pairs).find? Properties.user :=
    (Properties.ofPairs_alike same).find? (by decide)
  rw [← Establisher.claimed_eq, ← Establisher.claimed_eq, Establisher.claimed, user]
  rfl

end SessionRequest.Alike

/-! ## Establishing -/

/-- The authenticator, if it is asked at all, answers both passwords in the same way, and leaves the
outside so that nobody else can tell. -/
def Opening.Answered (providers : Providers σ) (t : Tolerance σ) (r r' : SessionRequest)
    (outside outside' : σ) : Opening → Prop
  | .built => True
  | .established e => ∀ connected events, r.credentials = some connected →
    Action.AlikeAt t Eq
      ((providers.authenticate e.authenticator (Establisher.userIn r connected)
        (Establisher.passwordIn r)).outcome e.spans ⟨outside, events⟩)
      ((providers.authenticate e.authenticator (Establisher.userIn r connected)
        (Establisher.passwordIn r')).outcome e.spans ⟨outside', events⟩)

namespace Establisher

variable {outside : Services σ} {e : Establisher} {s s' : Session}

/-- Loading context does not tell. -/
theorem loadContext_alike (respect : outside.Respect t) (attributes : List OptionValue)
    (id : String) : Attempt.Discreet t (loadContext outside.providers e attributes id) := by
  unfold loadContext
  split
  · exact .pure rfl
  · apply (Attempt.Alike.lift ((respect.load _ _ _).within _)).bind_same
    rintro ⟨err | _, enriched⟩
    · cases e.contextLoadPolicy with
      | fail => exact .ofExcept (.error _)
      | warn => exact ((Attempt.Alike.emit _ _ _).within _).bind_same fun _ => .pure rfl
    · exact .pure rfl

theorem impersonate_alike (alike : s.Alike s') :
    Attempt.Alike t Session.Alike (impersonate e s) (impersonate e s') := by
  unfold impersonate
  split
  · exact .pure alike
  · apply (Attempt.Alike.lift (Session.actForTarget_alike alike _)).bind
    rintro ⟨result, _⟩ ⟨_, _⟩ ⟨rfl, left⟩
    exact (Attempt.Alike.ofExcept (.of_eq rfl)).bind_same fun _ => .pure left

/-- What remains to be done with a session does not tell. -/
theorem finish_alike (alike : s.Alike s') (user : String) (applied : Nat) :
    Attempt.Alike t Session.Alike (e.finish user applied s) (e.finish user applied s') := by
  apply (impersonate_alike alike).bind
  rintro s _ ⟨p, properties, rfl⟩
  exact ((Attempt.Alike.emit _ _ _).within _).bind_same fun _ => .pure ⟨p, properties, rfl⟩

/-- Nobody is connected, and nothing is done. -/
theorem establish_of_none (nobody : r.credentials = none) (providers : Providers σ) (id : String)
    (spans : List String) (scene : Scene σ) :
    (e.establish providers r id).outcome spans scene =
      (.error (.invalid "Session credentials are required" "credentials" "session"), scene) := by
  have unknown : (e.accepting r).credentials = none := by rw [credentials_accepting, nobody]
  have refused : (Session.build (e.accepting r) id : Attempt σ Session) = .ofExcept (.error
      (.invalid "Session credentials are required" "credentials" "session")) := by
    rw [Session.build, unknown]
  show (Session.build (e.accepting r) id >>= _).outcome spans scene = _
  rw [refused, Attempt.bind_eq, Attempt.ofExcept_eq]

/-- **An established session differs in the password only**, and neither the error nor the events
tell, if the authenticator does not. -/
theorem establish_alike (respect : outside.Respect t) (alike : r.Alike r') (id : String)
    (spans : List String) {a b : Scene σ} (scenes : t.outside a.outside b.outside)
    (events : a.events = b.events)
    (answered : Opening.Answered outside.providers t r r' a.outside b.outside (.established e)) :
    Action.AlikeAt t (Results Session.Alike)
      ((e.establish outside.providers r id).outcome spans a)
      ((e.establish outside.providers r' id).outcome spans b) := by
  have given' : r'.credentials = r.credentials := by
    obtain ⟨pairs, -, rfl⟩ := alike
    rfl
  cases given : r.credentials with
  | none =>
    rw [establish_of_none given, establish_of_none (given'.trans given)]
    exact ⟨.error _, scenes, .inl events⟩
  | some connected =>
    obtain ⟨opening, building⟩ := Session.build_reports (r := e.accepting r)
      (by rw [credentials_accepting, given]) id spans
    obtain ⟨opening', building'⟩ := Session.build_reports (r := e.accepting r')
      (by rw [credentials_accepting, given', given]) id spans
    obtain rfl := (alike.accepting e).opening_eq building building'
    rw [establish_eq building, establish_eq building', ← events, ← alike.userIn_eq]
    -- The sessions go on from the attributes, which are the same.
    have attended : Action.AlikeAt t (Results Eq)
        ((e.attend outside.providers (userIn r connected) (passwordIn r) id).outcome spans
          ⟨a.outside, a.events ++ opening⟩)
        ((e.attend outside.providers (userIn r connected) (passwordIn r') id).outcome spans
          ⟨b.outside, a.events ++ opening⟩) := by
      obtain ⟨same, after⟩ := answered connected (a.events ++ opening) given
      refine Attempt.Alike.bindAt ⟨.of_eq same, after⟩ ?_
      rintro attributes _ rfl
      exact loadContext_alike respect attributes id
    have sessions (attributes : List OptionValue) : (e.enriched r id connected attributes).Alike
        (e.enriched r' id connected attributes) := by
      obtain ⟨p, properties, same⟩ := (alike.accepting e).ofRequest id connected
      exact ⟨p, properties, by rw [enriched, same]; rfl⟩
    rcases left : (e.attend outside.providers (userIn r connected) (passwordIn r) id).outcome spans
      ⟨a.outside, a.events ++ opening⟩ with ⟨result, a'⟩
    rcases right : (e.attend outside.providers (userIn r connected) (passwordIn r') id).outcome
      spans ⟨b.outside, a.events ++ opening⟩ with ⟨result', b'⟩
    rw [left, right] at attended
    obtain ⟨same, after⟩ := attended
    obtain rfl := same.eq
    rcases result with err | attributes
    · exact ⟨.error err, after⟩
    · exact finish_alike (sessions attributes) _ _ spans a' b' after

end Establisher

/-! ## The HTTP authenticator -/

namespace HttpLogin

variable {network : Network σ} {user password password' : String}

/-- Two requests that differ in the password can be sent both, or fail in the same way. -/
theorem request_alike (e : Endpoint) (user : String)
    (sendable : Net.isHeaderValue password = Net.isHeaderValue password') :
    (∃ fault, e.request user password = .error fault ∧ e.request user password' = .error fault) ∨
      ∃ request request', e.request user password = .ok request ∧
        e.request user password' = .ok request' := by
  unfold Endpoint.request
  rw [← sendable]
  split
  · exact .inl ⟨_, rfl, rfl⟩
  · split
    · exact .inl ⟨_, rfl, rfl⟩
    · exact .inr ⟨_, _, rfl, rfl⟩

/-- **The password reaches the endpoint only**: when both passwords can be sent, or neither, and the
endpoint answers both requests in the same way, so does the authenticator. -/
theorem authenticate_alike (h : HttpLogin)
    (sendable : Net.isHeaderValue password = Net.isHeaderValue password')
    (answered : ∀ e request request', h.endpoint = some e → e.request user password = .ok request →
      e.request user password' = .ok request' →
        Action.Alike t Eq (network.send request) (network.send request')) :
    Attempt.Alike t Eq (authenticate network h user password)
      (authenticate network h user password') := by
  unfold authenticate
  rcases ready : h.endpoint with _ | e
  · exact .ofExcept (.error _)
  · have asked : Action.Alike t Eq (ask network e user password)
        (ask network e user password') := by
      unfold ask
      rcases request_alike e user sendable with
        ⟨fault, first, second⟩ | ⟨request, request', first, second⟩
      · rw [first, second]
        exact .pure rfl
      · rw [first, second]
        apply (answered e request request' ready first second).bind
        rintro (_ | answer) _ rfl <;> exact .pure rfl
    apply (Attempt.Alike.lift asked).bind
    rintro (fault | token) _ rfl
    · exact (Attempt.Alike.emit _ _ _).bind_same fun _ => .ofExcept (.error _)
    · exact (Attempt.Alike.emit _ _ _).bind_same fun _ => .pure rfl

end HttpLogin

/-! ## Visits -/

/-- What is promised of two visits. -/
structure Services.Discreet (outside : Services σ) (opening : Opening) (r r' : SessionRequest)
    (id : String) (inquiries : List (Session.Inquiry σ)) : Prop where
  /-- If the authenticator answers, reports and leaves the same, so do the visits. -/
  same : ∀ spans scene,
    opening.Answered outside.providers .none r r' scene.outside scene.outside →
      (outside.visit opening r id inquiries).outcome spans scene =
        (outside.visit opening r' id inquiries).outcome spans scene
  /-- If it answers the same, the visits have the same answers; the events are the same but for
  those that the authenticator reports itself, and nobody but the authenticator finds the outside
  changed by the password. -/
  alike : ∀ (t : Tolerance σ) spans a b, outside.Respect t → (∀ i ∈ inquiries, i.Keeps t) →
    t.outside a.outside b.outside → a.events = b.events →
      opening.Answered outside.providers t r r' a.outside b.outside →
        Action.AlikeAt t Eq ((outside.visit opening r id inquiries).outcome spans a)
          ((outside.visit opening r' id inquiries).outcome spans b)

/-- Two visits are alike, step by step. -/
theorem Services.visit_alike {outside : Services σ} {opening : Opening} (alike : r.Alike r')
    (id : String) {inquiries : List (Session.Inquiry σ)} (discreet : ∀ i ∈ inquiries, i.Discreet)
    (respect : outside.Respect t) (keeps : ∀ i ∈ inquiries, i.Keeps t) (spans : List String)
    {a b : Scene σ} (scenes : t.outside a.outside b.outside) (events : a.events = b.events)
    (answered : opening.Answered outside.providers t r r' a.outside b.outside) :
    Action.AlikeAt t Eq ((outside.visit opening r id inquiries).outcome spans a)
      ((outside.visit opening r' id inquiries).outcome spans b) := by
  have opened : Action.AlikeAt t (Results Session.Alike)
      ((opening.session outside.providers r id).outcome spans a)
      ((opening.session outside.providers r' id).outcome spans b) := by
    rcases opening with _ | e
    · exact alike.build id spans a b ⟨scenes, .inl events⟩
    · exact Establisher.establish_alike respect alike id spans scenes events answered
  have visited : Action.AlikeAt t (Results Eq)
      ((outside.visit opening r id inquiries).outcome spans a)
      ((outside.visit opening r' id inquiries).outcome spans b) := by
    apply Attempt.Alike.bindAt opened
    intro s s' sessions
    apply (Attempt.Alike.lift (Session.converse_alike respect sessions discreet keeps)).bind
    rintro ⟨replies, _⟩ ⟨_, _⟩ ⟨rfl, left⟩
    exact (Attempt.Alike.lift (Session.abandon_alike left)).bind fun _ _ _ => .pure rfl
  exact ⟨visited.1.eq, visited.2⟩

/-- **A password does not leak.**  Two clients send the same, but for the values of the password,
and nobody looks at the password by its name.  Then the promise is kept, however the sessions come
about and whatever is asked of them. -/
theorem Services.visit_discreet (outside : Services σ) (opening : Opening) (alike : r.Alike r')
    (id : String) (inquiries : List (Session.Inquiry σ))
    (discreet : ∀ i ∈ inquiries, i.Discreet) : outside.Discreet opening r r' id inquiries where
  same := by
    intro spans scene answered
    have visited := visit_alike alike id discreet outside.respect_none (fun i _ => i.keeps_none)
      spans rfl rfl answered
    exact Prod.ext visited.1 (Scene.alike_none_iff.mp visited.2)
  alike _ spans _ _ respect keeps scenes events answered :=
    visit_alike alike id discreet respect keeps spans scenes events answered

/-! ### Trying it out -/

/-- An endpoint that lets everybody in. -/
def frontDoor : Endpoint :=
  ⟨⟨"https", "", none, some "door", none, "/", none, none⟩, 30, ⟨"user"⟩, ⟨"password"⟩, ⟨"token"⟩,
    .reject⟩

/-- The endpoint keeps all requests that it was sent. -/
def doorkeeper : Network (List LoginRequest) :=
  ⟨fun request => consult fun sent => (some ⟨200, [(⟨"token"⟩, "x")]⟩, sent ++ [request])⟩

/-- Services that have nothing to do but to let people in. -/
def recording : Services (List LoginRequest) where
  storages :=
    { uri := fun name => name
      probe := fun _ _ => pure true
      create := fun _ _ _ => pure ()
      delete := fun _ _ _ => pure true }
  workspaces := ⟨fun _ _ => pure none, fun _ _ => pure ()⟩
  providers :=
    { construct := fun _ => pure ⟨0⟩
      setup := fun _ _ => pure ()
      close := fun _ => pure ()
      authenticate := fun _ => HttpLogin.authenticate doorkeeper ⟨some frontDoor⟩
      load := fun _ attributes _ => pure (.ok (), attributes) }

/-- Whoever knocks as `alice`. -/
def knocking (password : String) : SessionRequest :=
  ⟨some ⟨"gateway"⟩, [("User", "alice"), ("PassWord", password), ("bogus", "x")], false, false,
    none, []⟩

/-- A table is made, and the session is looked at. -/
def lookingAround : List (Session.Inquiry (List LoginRequest)) :=
  [.call (.registerTable ⟨"w", "tmp", "disk", .localTop⟩ "Sales" "1"), .look .properties,
    .look .description, .look (.property "USER"), .call .close]

/-- The endpoint knows two passwords apart, and nobody else does. -/
theorem visit_discreet_recorded :
    (knocking "open").Alike (knocking "sesame") ∧ knocking "open" ≠ knocking "sesame" ∧
      (∀ i ∈ lookingAround, i.Discreet) ∧
        recording.Discreet (.established (.make ⟨0⟩ (some ⟨1⟩) .fail [])) (knocking "open")
          (knocking "sesame") "s" lookingAround ∧
          Action.AlikeAt ⟨fun _ _ => True, [], []⟩ Eq
            ((recording.visit (.established (.make ⟨0⟩ (some ⟨1⟩) .fail [])) (knocking "open") "s"
              lookingAround).outcome [] ⟨[], []⟩)
            ((recording.visit (.established (.make ⟨0⟩ (some ⟨1⟩) .fail [])) (knocking "sesame") "s"
              lookingAround).outcome [] ⟨[], []⟩) := by
  have alike : (knocking "open").Alike (knocking "sesame") := by
    refine ⟨(knocking "sesame").properties, .cons ⟨rfl, fun _ => rfl⟩ (.cons ⟨rfl, fun open_ => ?_⟩
      (.cons ⟨rfl, fun _ => rfl⟩ .nil)), rfl⟩
    exact absurd (by decide) open_
  have discreet : ∀ i ∈ lookingAround, i.Discreet := by
    unfold lookingAround
    simp only [List.forall_mem_cons, List.not_mem_nil, false_implies, implies_true, and_true]
    exact ⟨trivial, trivial, trivial, (by decide : ¬ Properties.IsPassword "USER"), trivial⟩
  have kept := recording.visit_discreet (.established (.make ⟨0⟩ (some ⟨1⟩) .fail [])) alike "s"
    lookingAround discreet
  refine ⟨alike, by decide, discreet, kept, kept.alike _ _ _ _ ?_ ?_ trivial rfl ?_⟩
  · exact ⟨fun _ _ => .pure rfl, fun _ _ _ => .pure rfl, fun _ _ _ => .pure rfl,
      fun _ _ => .pure rfl, fun _ _ => .pure rfl, fun _ _ _ => .pure rfl⟩
  · unfold lookingAround
    simp only [List.forall_mem_cons, List.not_mem_nil, false_implies, implies_true, and_true]
    exact ⟨trivial, trivial, trivial, trivial, trivial⟩
  · intro connected events _
    have user : Establisher.userIn (knocking "open") connected = "alice" := rfl
    have password : Establisher.passwordIn (knocking "open") = "open" := rfl
    have password' : Establisher.passwordIn (knocking "sesame") = "sesame" := rfl
    rw [user, password, password']
    -- Both can be sent, and the endpoint answers both in the same way.
    have sent : Attempt.Alike ⟨fun _ _ => True, [], []⟩ Eq
        (HttpLogin.authenticate doorkeeper ⟨some frontDoor⟩ "alice" "open")
        (HttpLogin.authenticate doorkeeper ⟨some frontDoor⟩ "alice" "sesame") :=
      HttpLogin.authenticate_alike _ (by decide)
        fun _ _ _ _ _ _ _ _ _ scenes => ⟨rfl, trivial, scenes.events⟩
    obtain ⟨same, after⟩ := sent _ _ _ ⟨trivial, .inl rfl⟩
    exact ⟨same.eq, after⟩

end QuerySession
