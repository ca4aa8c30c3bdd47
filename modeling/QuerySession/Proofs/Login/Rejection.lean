import QuerySession.Proofs.Establishment
import QuerySession.Security.HttpLogin

/-!
# Errors of logins

Why a login failed is for the server's log.  The client gets one error, which depends on the user and
on nothing else: not on the endpoint and how it was set up, nor on the password, nor on what came
back or did not.  A connection whose user is not let in ends with this error, and no other provider
hears of it.

## Main Definitions

* `HttpLogin.settle` — what a login comes to, by what asking the endpoint came to

## Main Results

* `HttpLogin.authenticate_error` — the error of a login is determined by the user
* `HttpLogin.rejections_alike` — two logins of one user that fail end in the same error
-/

namespace QuerySession.HttpLogin

variable {σ : Type} {e : Endpoint} {network : Network σ} {user password : String}
  {spans : List String} {scene : Scene σ}

/-- What a login comes to, by what asking the endpoint came to. -/
def settle (user : String) : Except LoginFault (Option String) → Except Error (List OptionValue)
  | .error _ => .error (.loginRejected user component)
  | .ok token => .ok (attributes token)

/-- A login comes to no error but one. -/
theorem settle_error {user : String} {verdict : Except LoginFault (Option String)}
    {err : Error} (failed : settle user verdict = .error err) :
    err = .loginRejected user component := by
  cases verdict with
  | error fault => exact (Except.error.inj failed).symm
  | ok token => cases failed

/-- What is left to do after the endpoint was asked. -/
def announce (user : String) : Except LoginFault (Option String) → Attempt σ (List OptionValue)
  | .error fault => do
    .emit .warn "Authentication failed" [("user", user), ("reason", fault.message)]
    .ofExcept (.error (.loginRejected user component))
  | .ok token => do
    .emit .debug (match token with
      | some _ => "Authentication succeeded"
      | none => "Authentication succeeded without a session id") [("user", user)]
    pure (attributes token)

/-- Only the log tells why a login failed. -/
theorem announce_reports (user : String) (verdict : Except LoginFault (Option String))
    (spans : List String) :
    ∃ events, Attempt.Reports (fun _ => announce user verdict) spans (settle user verdict)
      events := by
  cases verdict with
  | error fault => exact ⟨_, (Attempt.Reports.emit _ _ _ _).bind (.ofExcept _ _)⟩
  | ok token => exact ⟨_, (Attempt.Reports.emit _ _ _ _).bind (.pure _ _)⟩

/-- A login is what asking the endpoint comes to. -/
theorem authenticate_eq (network : Network σ) (e : Endpoint) (user password : String)
    (spans : List String) (scene : Scene σ) :
    (authenticate network ⟨some e⟩ user password).outcome spans scene =
      (announce user ((ask network e user password) spans scene).1).outcome spans
        ((ask network e user password) spans scene).2 := by
  have staged : authenticate network ⟨some e⟩ user password =
      ExceptT.lift (ask network e user password) >>= announce user := by
    apply bind_congr
    intro verdict
    cases verdict <;> rfl
  rw [staged, Attempt.bind_eq, Attempt.lift_eq]

/-- **The error of a login** with an authenticator that is set up does not depend on anything but the
user. -/
theorem authenticate_error {h : HttpLogin} (ready : h.endpoint ≠ none) {err : Error}
    (failed : ((h.authenticate network user password).outcome spans scene).1 = .error err) :
    err = .loginRejected user component := by
  obtain ⟨endpoint⟩ := h
  cases endpoint with
  | none => exact absurd rfl ready
  | some e =>
    rw [authenticate_eq] at failed
    obtain ⟨events, announcing⟩ :=
      announce_reports user ((ask network e user password) spans scene).1 spans
    exact settle_error ((congrArg Prod.fst (announcing σ _)).symm.trans failed)

/-- **Errors of logins tell nothing.**  Two logins of one user that fail, each with an authenticator
that is set up and whatever the endpoints do, end in the same error; and a connection for which an
authenticator is asked in vain gets this error as it is, and no other provider is called. -/
theorem rejections_alike {σ σ' : Type} (network : Network σ) (network' : Network σ')
    (h h' : HttpLogin) (ready : h.endpoint ≠ none) (ready' : h'.endpoint ≠ none)
    (user password password' : String) (spans spans' : List String) (scene : Scene σ)
    (scene' : Scene σ') (err err' : Error)
    (failed : ((h.authenticate network user password).outcome spans scene).1 = .error err)
    (failed' : ((h'.authenticate network' user password').outcome spans' scene').1 = .error err') :
    err = err' ∧ err = .loginRejected user component ∧ err.cause = .unknown ∧
      ∀ (providers : Providers σ) (e : Establisher) (r : SessionRequest) (connected : Credentials)
        (id : String) (outer : List String) (start : Scene σ),
        providers.authenticate e.authenticator = h.authenticate network →
          r.credentials = some connected → Establisher.userIn r connected = user →
            ∃ opening, ∀ answer after,
              (h.authenticate network user (Establisher.passwordIn r)).outcome e.spans
                  ⟨start.outside, start.events ++ opening⟩ = (.error answer, after) →
                answer = err ∧
                  (e.establish providers r id).outcome outer start = (.error err, after) ∧
                    (e.establish providers.watched r id).outcome outer (Watched.open_ start) =
                      (.error err, ⟨⟨after.outside, [.authenticate e.authenticator user
                        (Establisher.passwordIn r) (.error err)]⟩, after.events⟩) := by
  obtain rfl := authenticate_error ready failed
  obtain rfl := authenticate_error ready' failed'
  refine ⟨rfl, rfl, rfl, ?_⟩
  rintro providers e r connected id outer start asks given rfl
  obtain ⟨opening, rejecting⟩ := Establisher.establish_of_rejected given e id outer
  refine ⟨opening, fun answer after answered => ?_⟩
  obtain rfl := authenticate_error ready (congrArg Prod.fst answered)
  have asked : (providers.authenticate e.authenticator (Establisher.userIn r connected)
      (Establisher.passwordIn r)).outcome e.spans ⟨start.outside, start.events ++ opening⟩ =
      (.error (.loginRejected (Establisher.userIn r connected) component), after) := by
    rw [asks]
    exact answered
  exact ⟨rfl, rejecting providers start after _ asked,
    rejecting providers.watched _ _ _ (Establisher.authenticate_watched asked)⟩

/-- An endpoint that is asked under the usual names. -/
def door (policy : MissingTokenPolicy) : Endpoint :=
  ⟨⟨"http", "", none, some "gate", none, "/", none, none⟩, 30, ⟨"x-user"⟩, ⟨"x-password"⟩,
    ⟨"x-session-id"⟩, policy⟩

/-- A network without an answer. -/
def silent : Network Unit := ⟨fun _ => pure none⟩

/-- A network that counts its requests, and says too much. -/
def chatty : Network Nat :=
  ⟨fun _ => consult fun n => (some ⟨200, [(⟨"x-hint"⟩, "the password is too short")]⟩, n + 1)⟩

/-- Whoever is not answered cannot tell it from an answer without a token. -/
theorem rejections_alike_chatty : ∃ err err',
    ((authenticate silent ⟨some (door .accept)⟩ "alice" "open").outcome [] ⟨(), []⟩).1 =
        .error err ∧
      ((authenticate chatty ⟨some (door .reject)⟩ "alice" "").outcome ["a"] ⟨0, []⟩).1 =
        .error err' ∧ err = err' := by
  have alike := rejections_alike silent chatty ⟨some (door .accept)⟩ ⟨some (door .reject)⟩
    (Option.some_ne_none _) (Option.some_ne_none _) "alice" "open" "" [] ["a"] ⟨(), []⟩ ⟨0, []⟩ _ _
    rfl rfl
  exact ⟨_, _, rfl, rfl, alike.1⟩

end QuerySession.HttpLogin
