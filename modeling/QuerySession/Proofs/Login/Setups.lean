import QuerySession.Proofs.Action
import QuerySession.Security.Wire

/-!
# Setups of the HTTP authenticator

A setup makes sure of everything it needs before it changes anything, so an authenticator that was
set up any number of times goes by the last setup that succeeded, and those that failed might as
well not have been made.  This is so for every parser of addresses: what the parser makes of an
address is part of what a setup makes sure of.

## Main Definitions

* `SetupCall.Describes`, `SetupCall.Sound` — what a setup that succeeds has made sure of
* `SetupCall.InForce` — the last setup that succeeded

## Main Results

* `Endpoint.ofSettings_eq_ok_iff` — a setup succeeds exactly when all is made sure of
* `HttpLogin.setUpAll_of_inForce` — the setup in force leaves its endpoint
* `HttpLogin.setUpAll_filter` — setups that fail change nothing
-/

namespace QuerySession

open Net

variable {σ : Type} {parser : UrlParser}

/-! ## One setup -/

namespace SetupCall

/-- What a setup that succeeds has made sure of, and the endpoint that it leaves. -/
structure Describes (parser : UrlParser) (call : SetupCall) (e : Endpoint) : Prop where
  address : parser.parse (Endpoint.written call.settings.security.endpoint) = .ok e.address
  patient : call.settings.security.endpoint.timeoutSeconds ≠ 0
  timeout : e.timeoutSeconds = call.settings.security.endpoint.timeoutSeconds
  client : call.clientFault = none
  userHeader : HeaderName.ofText? call.settings.security.endpoint.userHeader = some e.userHeader
  passwordHeader :
    HeaderName.ofText? call.settings.security.endpoint.passwordHeader = some e.passwordHeader
  tokenHeader :
    HeaderName.ofText? call.settings.security.endpoint.sessionIdHeader = some e.tokenHeader
  missingToken : e.missingToken = call.settings.security.missingTokenPolicy

/-- A setup that succeeds. -/
def Sound (parser : UrlParser) (call : SetupCall) : Prop := ∃ e, call.Describes parser e

end SetupCall

/-- A name is taken if it is one. -/
theorem Endpoint.headerName_eq_ok_iff {value key : String} {name : HeaderName} :
    headerName value key = .ok name ↔ HeaderName.ofText? value = some name := by
  unfold headerName
  cases HeaderName.ofText? value <;> simp

/-- The endpoint that settings describe, by what a setup makes sure of. -/
theorem Endpoint.ofSettings_eq_ok_iff {call : SetupCall} {e : Endpoint} :
    ofSettings parser call.clientFault call.settings.security = .ok e ↔
      call.Describes parser e := by
  unfold ofSettings
  constructor
  · intro done
    cases address : parser.parse (written call.settings.security.endpoint) with
    | error fault => simp [address] at done
    | ok there =>
      by_cases patient : call.settings.security.endpoint.timeoutSeconds = 0
      · simp [address, patient] at done
      · cases client : call.clientFault with
        | some fault => simp [address, patient, client] at done
        | none =>
          simp only [address, patient, client, if_false] at done
          obtain ⟨userHeader, user, done⟩ := bind_eq_ok_iff.mp done
          obtain ⟨passwordHeader, password, done⟩ := bind_eq_ok_iff.mp done
          obtain ⟨tokenHeader, token, done⟩ := bind_eq_ok_iff.mp done
          obtain rfl := Except.ok.inj done
          exact ⟨address, patient, rfl, client, headerName_eq_ok_iff.mp user,
            headerName_eq_ok_iff.mp password, headerName_eq_ok_iff.mp token, rfl⟩
  · intro d
    simp only [d.address, d.patient, d.client, if_false]
    rw [headerName_eq_ok_iff.mpr d.userHeader, headerName_eq_ok_iff.mpr d.passwordHeader,
      headerName_eq_ok_iff.mpr d.tokenHeader, ← d.timeout, ← d.missingToken]
    rfl

/-- Whether a setup succeeds can be decided by trying it. -/
instance SetupCall.decidableSound : DecidablePred (SetupCall.Sound parser) := fun call =>
  decidable_of_iff ((Endpoint.ofSettings parser call.clientFault
      call.settings.security).toOption.isSome = true) (by
      cases described : Endpoint.ofSettings parser call.clientFault call.settings.security with
      | error fault =>
        refine ⟨fun there => absurd there Bool.false_ne_true, ?_⟩
        rintro ⟨e, d⟩
        cases described.symm.trans (Endpoint.ofSettings_eq_ok_iff.mpr d)
      | ok e => exact ⟨fun _ => ⟨e, Endpoint.ofSettings_eq_ok_iff.mp described⟩, fun _ => rfl⟩)

/-! ## One setup after the other -/

/-- A setup, and the endpoint that it leaves in force: it succeeds, and none does after it. -/
def SetupCall.InForce (parser : UrlParser) (calls : List SetupCall) (call : SetupCall)
    (e : Endpoint) : Prop :=
  ∃ before after, calls = before ++ call :: after ∧ call.Describes parser e ∧
    ∀ later ∈ after, ¬ later.Sound parser

/-- Unless all setups fail, one of them is in force. -/
theorem SetupCall.exists_inForce (calls : List SetupCall) :
    (∀ call ∈ calls, ¬ call.Sound parser) ∨ ∃ call e, SetupCall.InForce parser calls call e := by
  induction calls with
  | nil => exact .inl (by simp)
  | cons first rest ih =>
    rcases ih with failing | ⟨call, e, before, after, rfl, d, last⟩
    · by_cases sound : first.Sound parser
      · obtain ⟨e, d⟩ := sound
        exact .inr ⟨first, e, [], rest, rfl, d, failing⟩
      · exact .inl (List.forall_mem_cons.mpr ⟨sound, failing⟩)
    · exact .inr ⟨call, e, first :: before, after, rfl, d, last⟩

namespace HttpLogin

variable {call : SetupCall} {calls : List SetupCall} {e : Endpoint} {spans : List String}

/-- A setup that succeeds replaces the endpoint. -/
theorem setupWith_of_describes (h : HttpLogin) (d : call.Describes parser e)
    (spans : List String) :
    Action.Reports (fun _ => h.setupWith parser call.clientFault call.settings) spans
      (.ok (), ⟨some e⟩)
      [⟨.info, "HTTP authenticator configured",
        [("endpoint", Endpoint.written call.settings.security.endpoint)], spans⟩] := by
  unfold setupWith
  rw [Endpoint.ofSettings_eq_ok_iff.mpr d]
  exact (Action.Reports.emit _ _ _ _).bind (.pure _ _)

/-- A setup that fails changes nothing. -/
theorem setupWith_of_failing (h : HttpLogin) (failing : ¬ call.Sound parser)
    (spans : List String) :
    ∃ fault, Action.Reports (fun _ => h.setupWith parser call.clientFault call.settings) spans
      (.error fault, h) [] := by
  unfold setupWith
  cases described : Endpoint.ofSettings parser call.clientFault call.settings.security with
  | error fault => exact ⟨fault, .pure _ _⟩
  | ok e => exact absurd ⟨e, Endpoint.ofSettings_eq_ok_iff.mp described⟩ failing

/-- Setups that fail change nothing. -/
theorem setUpAll_of_failing (h : HttpLogin) (failing : ∀ call ∈ calls, ¬ call.Sound parser)
    (spans : List String) : Action.Reports (fun _ => h.setUpAll parser calls) spans h [] := by
  induction calls with
  | nil => exact .pure h spans
  | cons first rest ih =>
    obtain ⟨fault, setting⟩ := h.setupWith_of_failing (failing first List.mem_cons_self) spans
    exact setting.bind (ih fun call later => failing call (List.mem_cons_of_mem _ later))

/-- The setup in force leaves its endpoint, whatever came before it. -/
theorem setUpAll_of_inForce (h : HttpLogin) (inForce : SetupCall.InForce parser calls call e)
    (spans : List String) :
    ∃ events, Action.Reports (fun _ => h.setUpAll parser calls) spans ⟨some e⟩ events := by
  obtain ⟨before, after, rfl, d, last⟩ := inForce
  induction before generalizing h with
  | nil =>
    exact ⟨_, (h.setupWith_of_describes d spans).bind (setUpAll_of_failing _ last spans)⟩
  | cons first before ih =>
    by_cases sound : first.Sound parser
    · obtain ⟨e', d'⟩ := sound
      obtain ⟨events, rest⟩ := ih ⟨some e'⟩
      exact ⟨_, (h.setupWith_of_describes d' spans).bind rest⟩
    · obtain ⟨fault, setting⟩ := h.setupWith_of_failing sound spans
      obtain ⟨events, rest⟩ := ih h
      exact ⟨_, setting.bind rest⟩

/-- Setups that fail might as well not have been made. -/
theorem setUpAll_filter (h : HttpLogin) (calls : List SetupCall) :
    (h.setUpAll parser (calls.filter (·.Sound parser)) : Action σ HttpLogin) =
      h.setUpAll parser calls := by
  induction calls generalizing h with
  | nil => rfl
  | cons first rest ih =>
    by_cases sound : first.Sound parser
    · rw [List.filter_cons_of_pos (by simpa using sound)]
      unfold setUpAll
      exact congrArg _ (funext fun result => ih result.2)
    · rw [List.filter_cons_of_neg (by simpa using sound), ih]
      funext spans scene
      obtain ⟨fault, setting⟩ := h.setupWith_of_failing sound spans
      have first_eq : (h.setupWith parser first.clientFault first.settings) spans scene =
        ((.error fault, h), scene) := (setting σ scene).trans (by rw [List.append_nil])
      show (h.setUpAll parser rest) spans scene =
        (h.setupWith parser first.clientFault first.settings >>=
          fun result => result.2.setUpAll parser rest) spans scene
      rw [Action.bind_eq, first_eq]

end HttpLogin

end QuerySession
