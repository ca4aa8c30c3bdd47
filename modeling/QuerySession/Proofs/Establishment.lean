import QuerySession.Proofs.Bags
import QuerySession.Proofs.Principal
import QuerySession.Security.Recorded

/-!
# What is put into an established session

An established session has the options that its providers gave it, and nothing else.  Between the
building of the session and the user who may take over, `establish` asks the authenticator once, and
after that the context provider at most once (`Establisher.Course`); what they leave is what the
session is enriched with.  A context provider that fails and is tolerated leaves no trace, whatever
it did to the attributes before it failed: the session is the one that the establisher would have
made without it.

The calls are read off a run with providers that are watched, which answers as the run without.

## Main Definitions

* `Establisher.attend`, `Establisher.finish` — the stages between and after the calls
* `Establisher.Course` — the calls of providers, and what comes of them
* `Establisher.Contents` — what is promised of an established session

## Main Results

* `Establisher.attend_watched` — the calls, and that watching them changes nothing
* `Establisher.establish_contents` — the promise is kept
-/

namespace QuerySession.Establisher

variable {σ : Type} {providers : Providers σ} {e : Establisher} {r : SessionRequest}
  {id user password : String} {spans : List String} {scene : Scene σ} {connected : Credentials}

/-! ## The stages of `establish` -/

/-- The user to be authenticated: the last that the client named, or else whoever is connected. -/
def userIn (r : SessionRequest) (connected : Credentials) : String :=
  (Properties.last? r.properties Properties.user).getD connected.userName

/-- The password: the last that the client gave, or else the empty one. -/
def passwordIn (r : SessionRequest) : String :=
  (Properties.last? r.properties Properties.password).getD ""

/-- Ask the providers for the attributes of a session. -/
def attend (providers : Providers σ) (e : Establisher) (user password id : String) :
    Attempt σ (List OptionValue) := do
  let attributes ← within e.spans (providers.authenticate e.authenticator user password)
  loadContext providers e attributes id

/-- The session of a request with its attributes, before another user takes over. -/
def enriched (e : Establisher) (r : SessionRequest) (id : String) (connected : Credentials)
    (attributes : List OptionValue) : Session :=
  let s := Session.ofRequest (e.accepting r) id connected
  { s with options := s.options.applyAll attributes }

/-- What remains to be done with an enriched session. -/
def finish (e : Establisher) (user : String) (applied : Nat) (s : Session) : Attempt σ Session := do
  let s ← impersonate e s
  within e.spans (.emit .info "Session established"
    [("session_id", s.id), ("user", user), ("attributes", toString applied)])
  pure s

/-- The properties of a session are looked up by the last values that the client sent. -/
theorem claimed_eq : claimed r connected = userIn r connected := by
  rw [claimed, Properties.find?_ofPairs r.properties rfl]
  rfl

/-- The stages of `establish`, one after the other. -/
theorem establish_eq {opening : List Event}
    (building : Attempt.Reports (fun _ => Session.build (e.accepting r) id) spans
      (.ok (Session.ofRequest (e.accepting r) id connected)) opening)
    (providers : Providers σ) (scene : Scene σ) :
    (e.establish providers r id).outcome spans scene =
      match (e.attend providers (userIn r connected) (passwordIn r) id).outcome spans
          ⟨scene.outside, scene.events ++ opening⟩ with
      | (.ok attributes, after) => (e.finish (userIn r connected) attributes.length
          (e.enriched r id connected attributes)).outcome spans after
      | (.error err, after) => (.error err, after) := by
  have built : (Session.build (e.accepting r) id).outcome spans scene = _ := building σ scene
  have password_eq : (Session.ofRequest (e.accepting r) id connected).properties.findD
      Properties.password = passwordIn r := by
    rw [Session.ofRequest, properties_accepting, Properties.findD,
      Properties.find?_ofPairs r.properties rfl]
    rfl
  have user_eq : userOf (Session.ofRequest (e.accepting r) id connected) = userIn r connected := by
    rw [← claimed_eq, userOf, Session.ofRequest, properties_accepting]
    rfl
  have unfolded : e.establish providers r id = (do
      let s ← Session.build (e.accepting r) id
      let attributes ← e.attend providers (userOf s) (s.properties.findD Properties.password) s.id
      e.finish (userOf s) attributes.length
        { s with options := s.options.applyAll attributes }) := by
    simp only [establish, attend, finish, bind_assoc]
    rfl
  have id_eq : (Session.ofRequest (e.accepting r) id connected).id = id := rfl
  rw [unfolded, Attempt.bind_eq, built]
  simp only [user_eq, password_eq, id_eq]
  rw [Attempt.bind_eq]
  cases (e.attend providers (userIn r connected) (passwordIn r) id).outcome spans
    ⟨scene.outside, scene.events ++ opening⟩ with
  | mk result after => cases result <;> rfl

/-! ## The calls -/

/-- The calls of providers while a session is established, and the attributes that come of them, or
the error. -/
inductive Course (e : Establisher) (user password id : String) :
    List ProviderUse → Except Error (List OptionValue) → Prop
  /-- The user is not authenticated, and nobody else is asked. -/
  | rejected (err : Error) :
      Course e user password id [.authenticate e.authenticator user password (.error err)]
        (.error err)
  /-- There is no context provider. -/
  | plain (attributes : List OptionValue) (nobody : e.contextHandler = none) :
      Course e user password id [.authenticate e.authenticator user password (.ok attributes)]
        (.ok attributes)
  /-- The attributes are what the context provider left. -/
  | loaded {p : ProviderId} (attributes left : List OptionValue)
      (somebody : e.contextHandler = some p) :
      Course e user password id [.authenticate e.authenticator user password (.ok attributes),
        .load p attributes id (.ok ()) left] (.ok left)
  /-- The context provider failed, and so does the connection. -/
  | failed {p : ProviderId} (attributes left : List OptionValue) (err : Error)
      (somebody : e.contextHandler = some p) (policy : e.contextLoadPolicy = .fail) :
      Course e user password id [.authenticate e.authenticator user password (.ok attributes),
        .load p attributes id (.error err) left] (.error (contextLoadError id err))
  /-- The context provider failed, and the attributes are those that it was given. -/
  | tolerated {p : ProviderId} (attributes left : List OptionValue) (err : Error)
      (somebody : e.contextHandler = some p) (policy : e.contextLoadPolicy = .warn) :
      Course e user password id [.authenticate e.authenticator user password (.ok attributes),
        .load p attributes id (.error err) left] (.ok attributes)

/-- Whoever watches a call of the authenticator sees what it answers, and puts it on record. -/
theorem authenticate_watched {p : ProviderId} {scene : Scene (Watched σ)} {after : Scene σ}
    {answer : Except Error (List OptionValue)}
    (answered : (providers.authenticate p user password).outcome spans (Watched.forget scene) =
      (answer, after)) :
    (providers.watched.authenticate p user password).outcome spans scene =
      (answer, ⟨⟨after.outside, scene.outside.uses ++ [.authenticate p user password answer]⟩,
        after.events⟩) :=
  Watched.noting_eq answered

/-- Whoever watches a call of a context provider sees what it leaves, and puts it on record. -/
theorem load_watched {p : ProviderId} {attributes left : List OptionValue}
    {answer : Except Error Unit} {scene : Scene (Watched σ)} {after : Scene σ}
    (loaded : (providers.load p attributes id) spans (Watched.forget scene) =
      ((answer, left), after)) :
    (providers.watched.load p attributes id) spans scene =
      ((answer, left), ⟨⟨after.outside, scene.outside.uses ++ [.load p attributes id answer left]⟩,
        after.events⟩) :=
  Watched.noting_eq loaded

/-- Without a context provider the attributes stay as they are. -/
theorem loadContext_of_nobody (nobody : e.contextHandler = none) (providers : Providers σ)
    (attributes : List OptionValue) (id : String) :
    loadContext providers e attributes id = pure attributes := by
  unfold loadContext
  rw [nobody]

/-- What the context provider leaves is taken if it succeeds, and the policy decides otherwise. -/
theorem loadContext_of_somebody {p : ProviderId} (somebody : e.contextHandler = some p)
    {attributes left : List OptionValue} {answer : Except Error Unit} {after : Scene σ}
    (loaded : (providers.load p attributes id) e.spans scene = ((answer, left), after)) :
    (loadContext providers e attributes id).outcome spans scene =
      match answer with
      | .ok () => (.ok left, after)
      | .error err => match e.contextLoadPolicy with
        | .fail => (.error (contextLoadError id err), after)
        | .warn => (.ok attributes, ⟨after.outside, after.events ++
            [⟨.warn, "Context load failed; continuing with authentication attributes only",
              [("session_id", id), ("error", err.message)], e.spans⟩]⟩) := by
  unfold loadContext
  rw [somebody]
  simp only [Attempt.bind_eq, Attempt.lift_eq, Action.within_eq, loaded]
  cases answer with
  | ok _ => rfl
  | error err => cases e.contextLoadPolicy <;> rfl

/-- **The calls of providers**: their course, and that the answers and the rest of the outside are
the same whether they are watched or not. -/
theorem attend_watched (providers : Providers σ) (e : Establisher) (user password id : String)
    (spans : List String) (scene : Scene σ) : ∃ uses final after,
      Course e user password id uses final ∧
        (∀ answer, .authenticate e.authenticator user password answer ∈ uses →
          ((providers.authenticate e.authenticator user password).outcome e.spans scene).1 =
            answer) ∧
          (e.attend providers user password id).outcome spans scene = (final, after) ∧
            (e.attend providers.watched user password id).outcome spans (Watched.open_ scene) =
              (final, ⟨⟨after.outside, uses⟩, after.events⟩) := by
  have first (scene : Scene σ) : (e.attend providers user password id).outcome spans scene = _ :=
    Attempt.bind_eq ..
  have first_watched : (e.attend providers.watched user password id).outcome spans
      (Watched.open_ scene) = _ := Attempt.bind_eq ..
  rw [first, first_watched, Attempt.within_eq, Attempt.within_eq]
  cases answered : (providers.authenticate e.authenticator user password).outcome e.spans scene with
  | mk answer after =>
    have answered_watched : (providers.watched.authenticate e.authenticator user password).outcome
        e.spans (Watched.open_ scene) = _ := authenticate_watched answered
    rw [answered_watched]
    cases answer with
    | error err => exact ⟨_, _, after, .rejected err, by simp, rfl, rfl⟩
    | ok attributes =>
      cases handler : e.contextHandler with
      | none =>
        simp only [loadContext_of_nobody handler]
        exact ⟨_, _, after, .plain attributes handler, by simp, rfl, rfl⟩
      | some p =>
        cases loaded : (providers.load p attributes id) e.spans after with
        | mk done later =>
          obtain ⟨answer, left⟩ := done
          have loaded_watched : (providers.watched.load p attributes id) e.spans
              ⟨⟨after.outside, (Watched.open_ scene).outside.uses ++
                [.authenticate e.authenticator user password (.ok attributes)]⟩, after.events⟩ = _ :=
            load_watched loaded
          simp only [loadContext_of_somebody handler loaded,
            loadContext_of_somebody handler loaded_watched]
          cases answer with
          | ok _ => exact ⟨_, _, later, .loaded attributes left handler, by simp, rfl, rfl⟩
          | error err =>
            cases policy : e.contextLoadPolicy with
            | fail =>
              exact ⟨_, _, later, .failed attributes left err handler policy, by simp, rfl, rfl⟩
            | warn =>
              exact ⟨_, _, _, .tolerated attributes left err handler policy, by simp, rfl, rfl⟩

/-- Nobody else is asked for the attributes of a user who is not authenticated. -/
theorem attend_of_rejected {err : Error} {after : Scene σ}
    (answered : (providers.authenticate e.authenticator user password).outcome e.spans scene =
      (.error err, after)) (id : String) (spans : List String) :
    (e.attend providers user password id).outcome spans scene = (.error err, after) := by
  unfold attend
  rw [Attempt.bind_eq, Attempt.within_eq, answered]

/-- **A user who is not authenticated** gets the error of the authenticator as it is, and nothing is
done after it; `opening` is what the building of the session reports. -/
theorem establish_of_rejected (given : r.credentials = some connected) (e : Establisher)
    (id : String) (spans : List String) :
    ∃ opening, ∀ {σ : Type} (providers : Providers σ) (scene after : Scene σ) (err : Error),
      (providers.authenticate e.authenticator (userIn r connected) (passwordIn r)).outcome e.spans
          ⟨scene.outside, scene.events ++ opening⟩ = (.error err, after) →
        (e.establish providers r id).outcome spans scene = (.error err, after) := by
  obtain ⟨opening, building⟩ := Session.build_reports (r := e.accepting r)
    (by rw [credentials_accepting, given]) id spans
  refine ⟨opening, fun {σ} providers scene after err answered => ?_⟩
  rw [establish_eq building providers scene, attend_of_rejected answered]

/-! ## The rest -/

/-- The session when everything is done with it. -/
def settled (e : Establisher) (s : Session) : Session :=
  match e.authority with
  | none => s
  | some authority => s.takenOver authority

/-- Nothing but the credentials changes in the end. -/
theorem settled_eq (e : Establisher) (s : Session) :
    e.settled s = { s with credentials := (e.settled s).credentials } := by
  unfold settled
  split
  · rfl
  · exact s.takenOver_eq _

/-- Letting another user take over only reports. -/
theorem impersonate_reports (e : Establisher) (s : Session) (spans : List String) :
    ∃ result events, Attempt.Reports (fun _ => e.impersonate s) spans result events ∧
      ∀ s', result = .ok s' → s' = e.settled s := by
  unfold impersonate settled
  cases e.authority with
  | none => exact ⟨_, _, .pure s spans, fun s' same => (Except.ok.inj same).symm⟩
  | some authority =>
    obtain ⟨⟨result, left⟩, events, acting⟩ := s.actForTarget_reports authority spans
    have left_eq : left = s.takenOver authority := by
      have acted : (s.actForTarget authority) spans ⟨(), []⟩ = _ := acting Unit ⟨(), []⟩
      rw [← s.actForTarget_left authority spans (⟨(), []⟩ : Scene Unit), acted]
    have asked := Attempt.Reports.lift acting
    have answered := Attempt.Reports.ofExcept result spans
    cases result with
    | error err => exact ⟨.error err, _, asked.bind answered.bind_error, by rintro s' ⟨⟩⟩
    | ok _ =>
      refine ⟨.ok left, _, asked.bind (answered.bind (.pure left spans)), ?_⟩
      rintro s' ⟨⟩
      exact left_eq

/-- What remains to be done with an enriched session only reports. -/
theorem finish_reports (e : Establisher) (user : String) (applied : Nat) (s : Session)
    (spans : List String) :
    ∃ result events, Attempt.Reports (fun _ => e.finish user applied s) spans result events ∧
      ∀ s', result = .ok s' → s' = e.settled s := by
  obtain ⟨result, events, acting, left⟩ := e.impersonate_reports s spans
  cases result with
  | error err => exact ⟨.error err, _, acting.bind_error, by rintro s' ⟨⟩⟩
  | ok s' =>
    exact ⟨.ok s', _, acting.bind ((Attempt.Reports.emit _ _ _ _).within.bind (.pure _ _)), left⟩

/-- **What an established session has gone through**: it was built, got its attributes, and perhaps
another user took over. -/
theorem establish_settled {s : Session} {after : Scene σ}
    (h : (e.establish providers r id).outcome spans scene = (.ok s, after)) :
    ∃ connected attributes, r.credentials = some connected ∧
      s = e.settled (e.enriched r id connected attributes) := by
  obtain ⟨connected, -, -, given, -⟩ := establish_ok h
  obtain ⟨opening, building⟩ := Session.build_reports (r := e.accepting r)
    (by rw [credentials_accepting, given]) id spans
  rw [establish_eq building] at h
  split at h
  · rename_i attributes mid attended
    obtain ⟨result, events, finishing, left⟩ := e.finish_reports (userIn r connected)
      attributes.length (e.enriched r id connected attributes) spans
    have finished : result = .ok s := congrArg Prod.fst ((finishing σ mid).symm.trans h)
    exact ⟨connected, attributes, given, left s finished⟩
  · cases h

/-! ## The promise -/

/-- What is promised of a session that is established: `uses` are the calls of providers, `final` the
attributes that come of them, and `result` is the outcome. -/
structure Contents (providers : Providers σ) (e : Establisher) (r : SessionRequest) (id : String)
    (connected : Credentials) (spans : List String) (scene : Scene σ) (uses : List ProviderUse)
    (final : Except Error (List OptionValue)) (result : Except Error Session) : Prop where
  /-- The authenticator is asked once, with the last user and password that the client named; the
  context provider is asked at most once, and only after the authenticator accepted. -/
  course : Course e (userIn r connected) (passwordIn r) id uses final
  /-- The error of a provider is the error of the connection. -/
  fails : ∀ err, final = .error err → result = .error err
  /-- The options are the last attributes of their names, at the scope of the session, and those of
  the system for names that did not come. -/
  options : ∀ s, result = .ok s → ∃ attributes, final = .ok attributes ∧ ∀ system name,
    s.options.find? system name =
      ((SessionOptions.last? attributes name).map SessionOptions.atSession).or
        (if r.overSystemOptions then system.find? name else none)
  /-- A context provider that failed and is tolerated might as well not be there. -/
  tolerates : ∀ p attributes err left, .load p attributes id (.error err) left ∈ uses →
    e.contextLoadPolicy = .warn → result =
      (({ e with contextHandler := none }.establish providers r id).outcome spans scene).1

/-- Without a context provider the attributes are those of the authenticator. -/
theorem attend_of_nobody (providers : Providers σ) (e : Establisher) (user password id : String)
    (spans : List String) (scene : Scene σ) :
    ({ e with contextHandler := none }.attend providers user password id).outcome spans scene =
      (providers.authenticate e.authenticator user password).outcome e.spans scene := by
  have only : ({ e with contextHandler := none }.attend providers user password id) =
      within e.spans (providers.authenticate e.authenticator user password) := bind_pure _
  rw [only, Attempt.within_eq]

/-- Without a context provider a session is finished with what the authenticator answered. -/
theorem establish_of_nobody {opening events : List Event} {attributes : List OptionValue}
    {result : Except Error Session}
    (building : Attempt.Reports (fun _ => Session.build (e.accepting r) id) spans
      (.ok (Session.ofRequest (e.accepting r) id connected)) opening)
    (accepted : ((providers.authenticate e.authenticator (userIn r connected)
      (passwordIn r)).outcome e.spans ⟨scene.outside, scene.events ++ opening⟩).1 = .ok attributes)
    (finishing : Attempt.Reports (fun _ => e.finish (userIn r connected) attributes.length
      (e.enriched r id connected attributes)) spans result events) :
    (({ e with contextHandler := none }.establish providers r id).outcome spans scene).1 =
      result := by
  have stages := establish_eq (e := { e with contextHandler := none }) building providers scene
  rw [attend_of_nobody] at stages
  rw [stages]
  cases answered : (providers.authenticate e.authenticator (userIn r connected)
      (passwordIn r)).outcome e.spans ⟨scene.outside, scene.events ++ opening⟩ with
  | mk answer after =>
    rw [answered] at accepted
    cases accepted
    exact congrArg Prod.fst (finishing σ after)

/-- The options of a session that is established are the last of the attributes that it was enriched
with, and those of the system for other names. -/
theorem find?_settled (e : Establisher) (r : SessionRequest) (id : String) (connected : Credentials)
    (attributes : List OptionValue) (system : SystemOptions) (name : String) :
    (e.settled (e.enriched r id connected attributes)).options.find? system name =
      ((SessionOptions.last? attributes name).map SessionOptions.atSession).or
        (if r.overSystemOptions then system.find? name else none) := by
  have same : (e.accepting r).overSystemOptions = r.overSystemOptions := by
    unfold accepting
    split <;> rfl
  rw [settled_eq]
  show ((Session.ofRequest (e.accepting r) id connected).options.applyAll attributes).find?
    system name = _
  rw [SessionOptions.find?_applyAll]
  congr 1
  rw [Session.ofRequest, same]
  cases r.overSystemOptions <;> rfl

/-- **What `establish` puts into a session.**  Whoever is connected, whatever the client sent and
however the providers behave, the promise is kept; watching the providers changes nothing. -/
theorem establish_contents (given : r.credentials = some connected) (providers : Providers σ)
    (e : Establisher) (id : String) (spans : List String) (scene : Scene σ) :
    let lone := (e.establish providers r id).outcome spans scene
    let seen := (e.establish providers.watched r id).outcome spans (Watched.open_ scene)
    seen.1 = lone.1 ∧ Watched.forget seen.2 = lone.2 ∧
      ∃ final, Contents providers e r id connected spans scene seen.2.outside.uses final lone.1 := by
  intro lone seen
  obtain ⟨opening, building⟩ := Session.build_reports (r := e.accepting r)
    (by rw [credentials_accepting, given]) id spans
  have lone_eq : lone = _ := establish_eq building providers scene
  have seen_eq : seen = _ := establish_eq building providers.watched (Watched.open_ scene)
  obtain ⟨uses, final, after, course, answered, attended, watched⟩ :=
    attend_watched providers e (userIn r connected) (passwordIn r) id spans
      ⟨scene.outside, scene.events ++ opening⟩
  rw [attended] at lone_eq
  have watched' : (e.attend providers.watched (userIn r connected) (passwordIn r) id).outcome spans
      ⟨(Watched.open_ scene).outside, (Watched.open_ scene).events ++ opening⟩ = _ := watched
  rw [watched'] at seen_eq
  cases final with
  | error err =>
    have lone_error : lone = (.error err, after) := lone_eq
    have seen_error : seen = (.error err, ⟨⟨after.outside, uses⟩, after.events⟩) := seen_eq
    rw [lone_error, seen_error]
    refine ⟨rfl, rfl, .error err, course, by rintro _ ⟨⟩; rfl, by rintro s ⟨⟩, ?_⟩
    intro p attributes err' left failed warn
    cases course with
    | rejected err => simp at failed
    | failed attributes left err somebody policy => cases policy.symm.trans warn
  | ok attributes =>
    obtain ⟨result, events, finishing, left⟩ := e.finish_reports (userIn r connected)
      attributes.length (e.enriched r id connected attributes) spans
    have lone_finish : lone = (result, ⟨after.outside, after.events ++ events⟩) :=
      lone_eq.trans (finishing σ after)
    have seen_finish : seen = (result, ⟨⟨after.outside, uses⟩, after.events ++ events⟩) :=
      seen_eq.trans (finishing (Watched σ) ⟨⟨after.outside, uses⟩, after.events⟩)
    rw [lone_finish, seen_finish]
    refine ⟨rfl, rfl, .ok attributes, course, by rintro err ⟨⟩, ?_, ?_⟩
    · intro s done
      refine ⟨attributes, rfl, fun system name => ?_⟩
      rw [left s done, find?_settled]
    · intro p given' err' left' failed warn
      cases course with
      | plain => simp at failed
      | loaded => simp at failed
      | tolerated attributes left err somebody policy =>
        exact (establish_of_nobody building (answered (.ok attributes) (by simp)) finishing).symm

/-! ### Trying it out -/

/-- Providers of which one authenticates everybody, with a color in two spellings, and the other
adds a size and takes the colors away before it fails. -/
def meddler : Providers Unit where
  construct := fun _ => pure ⟨0⟩
  setup := fun _ _ => pure ()
  close := fun _ => pure ()
  authenticate := fun _ _ _ => pure [⟨.system, "Color", .text "red"⟩, ⟨.query, "color", .text "blue"⟩]
  load := fun _ _ _ => pure (.error .unreadable, [⟨.session, "size", .whole 3⟩])

/-- A connection of `gateway`, whose options fall back on those of the system. -/
def plainly : SessionRequest :=
  ⟨some ⟨"gateway"⟩, [("USER", "alice"), ("user", "bob"), ("bogus", "x")], true, false, none, []⟩

/-- The last color counts, and the size is the system's, since the provider failed. -/
theorem establish_contents_meddled : ∃ s after uses final,
    ((make ⟨0⟩ (some ⟨1⟩) .warn []).establish meddler plainly "s").outcome [] ⟨(), []⟩ =
      (.ok s, after) ∧
      Contents meddler (make ⟨0⟩ (some ⟨1⟩) .warn []) plainly "s" ⟨"gateway"⟩ [] ⟨(), []⟩ uses final
        (.ok s) ∧
        s.options.find? (SystemOptions.empty.set ⟨.system, "Size", .whole 7⟩) "COLOR" =
          some ⟨.session, "color", .text "blue"⟩ ∧
          s.options.find? (SystemOptions.empty.set ⟨.system, "Size", .whole 7⟩) "size" =
            some ⟨.system, "Size", .whole 7⟩ := by
  obtain ⟨-, -, final, contents⟩ := establish_contents (r := plainly) rfl meddler
    (make ⟨0⟩ (some ⟨1⟩) .warn []) "s" [] ⟨(), []⟩
  exact ⟨_, _, _, final, rfl, contents, rfl, rfl⟩

end QuerySession.Establisher
