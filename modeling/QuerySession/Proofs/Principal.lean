import QuerySession.Proofs.Session
import QuerySession.Session.Establish

/-!
# The user of an established session

Two users come with a connection: the one who is connected, and the one whom the client names to
be authenticated.  `establish` has the second one authenticated, while the session is that of the
first one, or of the user whom the first one may act for.  `establish_principal` says which user a
session has, and exactly when this user was authenticated, or may be acted for by the one who was.
It is so whenever the client names nobody, or the one who is connected.  `establish_unwarranted`
is a session of somebody whom no authenticator accepted.

## Main Definitions

* `Establisher.claimed`, `Establisher.wanted` — whom the client names, to be authenticated and to
  act for
* `Establisher.Acting` — whose session it is
* `Establisher.Warranted` — the user was authenticated, or may be acted for by the one who was

## Main Results

* `Establisher.establish_ok` — what an established session has behind it
* `Establisher.establish_principal` — whose session it is, and when this is warranted
-/

namespace QuerySession.Establisher

variable {σ : Type} {providers : Providers σ} {e : Establisher} {r : SessionRequest} {id : String}
  {spans : List String} {scene after : Scene σ} {s : Session} {connected : Credentials}

/-! ## The users of a request -/

/-- The request of a session that accepts the authority of the establisher. -/
def accepting (e : Establisher) (r : SessionRequest) : SessionRequest :=
  match e.authority with
  | some authority => { r with authority := some authority.id }
  | none => r

/-- The user who is to be authenticated: as the client says, or else whoever is connected. -/
def claimed (r : SessionRequest) (connected : Credentials) : String :=
  ((Properties.ofPairs r.properties).find? Properties.user).getD connected.userName

/-- The user to act for, as the client says; empty if it does not. -/
def wanted (r : SessionRequest) : String :=
  (Properties.ofPairs r.properties).findD Properties.impersonationTarget

/-- Whether another user takes over: an authority is there, and the client asked for it. -/
def Switches (e : Establisher) (r : SessionRequest) : Prop :=
  e.authority ≠ none ∧ wanted r ≠ ""

/-- Whose session it is: that of the one who is connected, or of the one whom an authority lets this
one act for. -/
inductive Acting (e : Establisher) (r : SessionRequest) (connected : Credentials) :
    Credentials → Prop
  | kept (stays : ¬ Switches e r) : Acting e r connected connected
  | switched {authority : Authority} (present : e.authority = some authority)
      (asked : wanted r ≠ "")
      (allowed : authority.allows connected.userName (wanted r) = true) :
      Acting e r connected ⟨wanted r⟩

/-- The user of a session is the one who was authenticated, or the one whom the client asked to
act for and whom the authority lets this one act for. -/
def Warranted (e : Establisher) (r : SessionRequest) (accepted user : String) : Prop :=
  user = accepted ∨ ∃ authority, e.authority = some authority ∧ wanted r ≠ "" ∧ user = wanted r ∧
    authority.allows accepted (wanted r) = true

/-! ## What an established session has behind it -/

@[simp] theorem credentials_accepting : (e.accepting r).credentials = r.credentials := by
  unfold accepting
  split <;> rfl

@[simp] theorem properties_accepting : (e.accepting r).properties = r.properties := by
  unfold accepting
  split <;> rfl

/-- What comes of the user to act for. -/
theorem impersonate_ok {s' : Session}
    (h : (impersonate e s).outcome spans scene = (.ok s', after))
    (fresh : s.credentials = connected) (asked : s.properties = .ofPairs r.properties) :
    Acting e r connected s'.credentials := by
  have target : s.target?.getD "" = wanted r := by
    rw [Session.target?, asked]
    rfl
  unfold impersonate at h
  split at h
  · rename_i missing
    cases h
    rw [fresh]
    exact .kept fun switches => switches.1 missing
  · rename_i authority present
    obtain ⟨⟨result, left⟩, mid, acted, rest⟩ := Attempt.bind_ok h
    obtain ⟨⟨⟩, last, succeeded, done⟩ := Attempt.bind_ok rest
    cases done
    rw [Attempt.lift_eq] at acted
    cases result with
    | error e => cases succeeded
    | ok _ =>
      have left_eq := congrArg Prod.fst acted
      rcases Session.actForTarget_ok (Except.ok.inj left_eq) with
        ⟨none_asked, same⟩ | ⟨some_asked, allowed, same⟩
      · rw [same, fresh]
        exact .kept fun switches => switches.2 (target ▸ none_asked)
      · rw [same, target]
        rw [target] at some_asked allowed
        exact .switched present some_asked (fresh ▸ allowed)

/-- **What an established session has behind it.**  Somebody is connected; the authenticator
accepted the user whom the client named; and the session is that of the one who is connected, or
of the one whom this one may act for. -/
theorem establish_ok (h : (e.establish providers r id).outcome spans scene = (.ok s, after)) :
    ∃ connected attributes mid, r.credentials = some connected ∧
      (providers.authenticate e.authenticator (claimed r connected)
          ((Properties.ofPairs r.properties).findD Properties.password)).outcome e.spans
          ((Session.build (e.accepting r) id).outcome spans scene).2 = (.ok attributes, mid) ∧
        Acting e r connected s.credentials := by
  unfold establish at h
  obtain ⟨built, built_at, building, rest⟩ := Attempt.bind_ok h
  obtain ⟨attributes, authenticated_at, authenticated, rest⟩ := Attempt.bind_ok rest
  obtain ⟨enriched, enriched_at, -, rest⟩ := Attempt.bind_ok rest
  obtain ⟨acting, acting_at, impersonated, rest⟩ := Attempt.bind_ok rest
  obtain ⟨⟨⟩, last, -, done⟩ := Attempt.bind_ok rest
  cases done
  have building : (Session.build (e.accepting r) id).outcome spans scene = (.ok built, built_at) :=
    building
  obtain ⟨connected, given, rfl⟩ := Session.build_ok building
  rw [credentials_accepting] at given
  have properties : (Session.ofRequest (e.accepting r) id connected).properties =
      .ofPairs r.properties := by
    rw [Session.ofRequest, properties_accepting]
  refine ⟨connected, attributes, authenticated_at, given, ?_, ?_⟩
  · rw [building, ← authenticated, Attempt.within_eq, userOf, properties]
    rfl
  · exact impersonate_ok impersonated rfl properties

/-! ## Whether the user is warranted -/

/-- **When the user of a session is warranted**: without a switch, if the one who is connected was
authenticated; and with one, if the user to act for was, or may be acted for by the one who was. -/
theorem Acting.warranted_iff {accepted : String} {user : Credentials}
    (acting : Acting e r connected user) : Warranted e r accepted user.userName ↔
      (¬ Switches e r → connected.userName = accepted) ∧
        ∀ authority, e.authority = some authority → wanted r ≠ "" →
          wanted r = accepted ∨ authority.allows accepted (wanted r) = true := by
  unfold Warranted
  cases acting with
  | kept stays =>
    have never {authority : Authority} (present : e.authority = some authority)
        (asked : wanted r ≠ "") : False :=
      stays ⟨by rw [present]; exact Option.some_ne_none _, asked⟩
    constructor
    · rintro (same | ⟨authority, present, asked, -⟩)
      · exact ⟨fun _ => same, fun authority present asked => (never present asked).elim⟩
      · exact (never present asked).elim
    · rintro ⟨same, -⟩
      exact .inl (same stays)
  | @switched authority present asked allowed =>
    have switches : Switches e r := ⟨by rw [present]; exact Option.some_ne_none _, asked⟩
    constructor
    · intro warranted
      refine ⟨fun stays => absurd switches stays, fun other present' _ => ?_⟩
      cases present.symm.trans present'
      rcases warranted with same | ⟨other, present', -, -, permitted⟩
      · exact .inl same
      · cases present.symm.trans present'
        exact .inr permitted
    · rintro ⟨-, may⟩
      rcases may authority present asked with same | permitted
      · exact .inl same
      · exact .inr ⟨authority, present, asked, rfl, permitted⟩

/-- Whoever is connected and was authenticated is warranted, as is the one whom this one may act
for. -/
theorem Acting.warranted_of_connected {accepted : String} {user : Credentials}
    (acting : Acting e r connected user) (same : accepted = connected.userName) :
    Warranted e r accepted user.userName := by
  subst same
  cases acting with
  | kept stays => exact .inl rfl
  | switched present asked allowed => exact .inr ⟨_, present, asked, rfl, allowed⟩

/-- **The user of an established session.**  Whenever `establish` answers a session, the
authenticator has accepted the user whom the client named; the session is that of the one who is
connected, or of the one whom the authority lets this one act for; and the user is warranted
exactly under the conditions that `Acting.warranted_iff` tells, which hold if the client named the
one who is connected, or nobody. -/
theorem establish_principal
    (h : (e.establish providers r id).outcome spans scene = (.ok s, after)) :
    ∃ connected attributes mid, r.credentials = some connected ∧
      (providers.authenticate e.authenticator (claimed r connected)
          ((Properties.ofPairs r.properties).findD Properties.password)).outcome e.spans
          ((Session.build (e.accepting r) id).outcome spans scene).2 = (.ok attributes, mid) ∧
        Acting e r connected s.credentials ∧
          (Warranted e r (claimed r connected) s.credentials.userName ↔
            (¬ Switches e r → connected.userName = claimed r connected) ∧
              ∀ authority, e.authority = some authority → wanted r ≠ "" →
                wanted r = claimed r connected ∨
                  authority.allows (claimed r connected) (wanted r) = true) ∧
            (claimed r connected = connected.userName →
              Warranted e r (claimed r connected) s.credentials.userName) := by
  obtain ⟨connected, attributes, mid, given, authenticated, acting⟩ := establish_ok h
  exact ⟨connected, attributes, mid, given, authenticated, acting, acting.warranted_iff,
    acting.warranted_of_connected⟩

/-! ### Sessions to try things out with -/

/-- Providers that authenticate one user, whatever the password, and add nothing. -/
def doorkeeper (accepted : String) : Providers Unit where
  construct := fun _ => pure ⟨0⟩
  setup := fun _ _ => pure ()
  close := fun _ => pure ()
  authenticate := fun _ user _ =>
    if user = accepted then pure [] else .ofExcept (.error .unreadable)
  load := fun _ attributes _ => pure (.ok (), attributes)

/-- An authority by which `gateway` may act for everyone. -/
def gatekeeper : Authority := ⟨⟨0⟩, [⟨⟨["gateway"]⟩, ⟨[Principals.everyone]⟩⟩]⟩

/-- A connection of `gateway`, which wants to act for `bob`. -/
def onBehalf : SessionRequest :=
  ⟨some ⟨"gateway"⟩, [("impersonation_target", "bob")], false, false, none, []⟩

/-- The session is `bob`'s, for whom the one who was authenticated may act. -/
theorem establish_onBehalf : ∃ s after,
    (((make ⟨0⟩ none .fail []).withAuthority gatekeeper).establish (doorkeeper "gateway") onBehalf
      "s").outcome [] ⟨(), []⟩ = (.ok s, after) ∧ s.credentials.userName = "bob" ∧
      Warranted ((make ⟨0⟩ none .fail []).withAuthority gatekeeper) onBehalf "gateway" "bob" := by
  have established : (((make ⟨0⟩ none .fail []).withAuthority gatekeeper).establish
      (doorkeeper "gateway") onBehalf "s").outcome [] ⟨(), []⟩ = (.ok _, _) := rfl
  obtain ⟨connected, -, -, given, -, -, -, warranted⟩ := establish_principal established
  cases given
  exact ⟨_, _, established, rfl, warranted rfl⟩

/-- A connection of `admin`, which names `alice` to be authenticated. -/
def inDisguise : SessionRequest :=
  ⟨some ⟨"admin"⟩, [("user", "alice"), ("password", "pw")], false, false, none, []⟩

/-- The session is `admin`'s, although the authenticator accepts nobody but `alice`. -/
theorem establish_unwarranted : ∃ s after,
    ((make ⟨0⟩ none .fail []).establish (doorkeeper "alice") inDisguise "s").outcome [] ⟨(), []⟩ =
      (.ok s, after) ∧ s.credentials.userName = "admin" ∧
        ¬ Warranted (make ⟨0⟩ none .fail []) inDisguise "alice" s.credentials.userName := by
  refine ⟨_, _, rfl, rfl, ?_⟩
  rintro (same | ⟨authority, present, -⟩)
  · revert same
    decide
  · cases present

end QuerySession.Establisher
