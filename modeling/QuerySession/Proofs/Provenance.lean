import QuerySession.Proofs.Establishment
import QuerySession.Session.Calls
import QuerySession.Simulation.World

/-!
# Where the credentials of a session come from

Whatever is asked of a session, and by whom, its user is the one it was built with or the one whom
the client asked to act for.  A change of users was made by the one authority that the session
accepts, under one of its policies; this policy was asked about the user of that moment, who may have
been put there by an earlier change.

A call can do three things to the credentials (`Session.Takeover`), and nothing to the authority and
to the user to act for.  What a whole run does follows by looking at one call at a time.

## Main Definitions

* `Session.Takeover` — what a call can do to the credentials
* `Session.Provenance` — what is promised of the credentials after a run

## Main Results

* `Session.perform_goes` — what one call leaves
* `Session.credentials_provenance` — the promise is kept
-/

namespace QuerySession.Session

variable {σ : Type} {storages : Storages σ} {workspaces : Workspaces σ} {spans : List String}
  {scene : Scene σ} {s : Session}

/-! ## One call -/

/-- What a call can do to the credentials of a session. -/
inductive Takeover (s : Session) : Call σ → Credentials → Prop
  | kept (call : Call σ) : Takeover s call s.credentials
  /-- The authority lets the user to act for take over. -/
  | acted {authority : Authority} (accepted : s.authority = some authority.id)
      (asked : s.target?.getD "" ≠ "")
      (allowed : authority.allows s.credentials.userName (s.target?.getD "") = true) :
      Takeover s (.actForTarget authority) ⟨s.target?.getD ""⟩
  /-- Someone has the token of the authority. -/
  | replaced {authority : Authority} {credentials : Credentials}
      (accepted : s.authority = some authority.id) (named : credentials.userName ≠ "") :
      Takeover s (.replaceCredentials authority credentials) credentials

/-- What a call leaves of a session, as far as its user is concerned. -/
structure Goes (s : Session) (call : Call σ) (s' : Session) : Prop where
  authority : s'.authority = s.authority
  target : s'.target? = s.target?
  credentials : Takeover s call s'.credentials

/-- A call that leaves the authority, the properties and the credentials alone. -/
theorem Goes.of_same {call : Call σ} {s' : Session} (authority : s'.authority = s.authority)
    (properties : s'.properties = s.properties) (credentials : s'.credentials = s.credentials) :
    Goes s call s' :=
  ⟨authority, by rw [target?, properties, target?], credentials ▸ .kept call⟩

/-- The schema is not the user to act for. -/
theorem target?_set_schema (s : Session) (path : String) :
    { s with properties := s.properties.set Properties.schema path }.target? = s.target? := by
  have other : Text.lowerCase Properties.schema ≠
      Text.lowerCase Properties.impersonationTarget := by decide
  simp only [target?, Properties.find?_set, if_neg other]

/-- **What one call leaves** of the user of a session. -/
theorem perform_goes (storages : Storages σ) (workspaces : Workspaces σ) (s : Session)
    (call : Call σ) (spans : List String) (scene : Scene σ) :
    Goes s call ((s.perform storages workspaces call) spans scene).1 := by
  cases call with
  | actForTarget authority =>
    have left : ((s.perform storages workspaces (.actForTarget authority)) spans scene).1 =
        s.takenOver authority := s.actForTarget_left authority spans scene
    rw [left]
    refine ⟨by rw [takenOver_eq], by rw [takenOver_eq]; rfl, ?_⟩
    unfold takenOver
    split
    · rename_i may
      exact .acted may.2.2 may.1 may.2.1
    · exact .kept _
  | replaceCredentials authority credentials =>
    have left : ((s.perform storages workspaces (.replaceCredentials authority credentials)) spans
        scene).1 = _ := s.replaceCredentials_left authority.id credentials spans scene
    rw [left]
    split
    · rename_i may
      exact ⟨rfl, rfl, .replaced may.1 may.2⟩
    · exact ⟨rfl, rfl, .kept _⟩
  | setDefaultSchema path current =>
    have left : ((s.perform storages workspaces (.setDefaultSchema path current)) spans scene).1 =
      _ := s.setDefaultSchema_left path current spans scene
    rw [left]
    split
    · exact .of_same rfl rfl rfl
    · exact ⟨rfl, s.target?_set_schema _, .kept _⟩
  | registerTable w name token =>
    have left : ((s.perform storages workspaces (.registerTable w name token)) spans scene).1 =
      ((s.registerTable storages w name token) spans scene).1.2 := rfl
    rw [left, registerTable_eq]
    split <;> exact .of_same rfl rfl rfl
  | removeTable w name =>
    have left : ((s.perform storages workspaces (.removeTable w name)) spans scene).1 =
      ((s.removeTable workspaces w name) spans scene).1.2 := rfl
    rw [left]
    cases known : s.tables.resolve? name with
    | none =>
      rw [removeTable_of_unknown workspaces s w known]
      exact .of_same rfl rfl rfl
    | some tableAlias =>
      rw [removeTable_of_known workspaces s w known]
      split <;> exact .of_same rfl rfl rfl
  | _ => exact .of_same rfl rfl rfl

/-! ## Who may change the user -/

/-- A single policy of the authority lets `proxy` act for `target`. -/
def Sanctions (authority : Authority) (proxy target : String) : Prop :=
  ∃ policy ∈ authority.policies,
    (Principals.everyone ∈ policy.proxies.users ∨ proxy ∈ policy.proxies.users) ∧
      (Principals.everyone ∈ policy.targets.users ∨ target ∈ policy.targets.users)

/-- What an authority allows is allowed by one of its policies. -/
theorem sanctions_of_allows {authority : Authority} {proxy target : String}
    (allowed : authority.allows proxy target = true) : Sanctions authority proxy target := by
  obtain ⟨policy, mem, both⟩ := List.any_eq_true.mp allowed
  rw [Policy.allows, Bool.and_eq_true, Principals.covers_iff, Principals.covers_iff] at both
  exact ⟨policy, mem, both⟩

/-- The authority that a call names. -/
def Call.authority? : Call σ → Option Authority
  | .actForTarget authority | .replaceCredentials authority _ => some authority
  | _ => none

/-- What is assumed of the calls on a session with a designated authority, if it has one: whoever
replaces credentials outright has the token of another authority, and authorities have identities of
their own. -/
structure Foreign (designated : Option Authority) (calls : List (Call σ)) : Prop where
  stranger : ∀ authority credentials, .replaceCredentials authority credentials ∈ calls →
    designated ≠ some authority
  distinct : ∀ a ∈ designated.toList ++ calls.filterMap Call.authority?,
    ∀ b ∈ designated.toList ++ calls.filterMap Call.authority?, a.id = b.id → a = b

/-- Of the authorities that are named, the session accepts the designated one. -/
theorem Foreign.designated_eq {designated : Option Authority} {calls : List (Call σ)}
    (foreign : Foreign designated calls) {call : Call σ} (mem : call ∈ calls) {authority : Authority}
    (names : call.authority? = some authority)
    (accepted : designated.map Authority.id = some authority.id) : designated = some authority := by
  obtain ⟨chosen, rfl, same⟩ := Option.map_eq_some_iff.mp accepted
  refine congrArg some (foreign.distinct chosen (by simp) authority ?_ same)
  exact List.mem_append_right _ (List.mem_filterMap.mpr ⟨call, mem, names⟩)

/-- **Who changes the credentials**: nobody but the designated authority. -/
theorem Goes.changed {designated : Option Authority} {calls : List (Call σ)}
    (foreign : Foreign designated calls) {call : Call σ} (mem : call ∈ calls) {s' : Session}
    (goes : Goes s call s') (accepts : s.authority = designated.map Authority.id) :
    s'.credentials = s.credentials ∨ ∃ authority, designated = some authority ∧
      call = .actForTarget authority ∧ s.target?.getD "" ≠ "" ∧
        s'.credentials = ⟨s.target?.getD ""⟩ ∧
          Sanctions authority s.credentials.userName (s.target?.getD "") := by
  obtain ⟨-, -, takeover⟩ := goes
  generalize s'.credentials = c at takeover
  cases takeover with
  | kept => exact .inl rfl
  | @acted authority accepted asked allowed =>
    exact .inr ⟨authority, foreign.designated_eq mem rfl (accepts ▸ accepted), rfl, asked, rfl,
      sanctions_of_allows allowed⟩
  | @replaced authority credentials accepted named =>
    exact absurd (foreign.designated_eq mem rfl (accepts ▸ accepted))
      (foreign.stranger authority _ mem)

/-! ## A whole run -/

/-- A run can be cut anywhere. -/
theorem run_append (s : Session) (first second : List (Call σ)) (scene : Scene σ) :
    (s.run storages workspaces (first ++ second)) spans scene =
      (((s.run storages workspaces first) spans scene).1.run storages workspaces second) spans
        ((s.run storages workspaces first) spans scene).2 := by
  rw [run, List.foldlM_append]
  rfl

/-- What is promised of the credentials of a session after a run of calls: it was built with
`origin`, and accepts the designated authority, if there is one. -/
structure Provenance (storages : Storages σ) (workspaces : Workspaces σ) (spans : List String)
    (designated : Option Authority) (origin : Credentials) (s : Session) (scene : Scene σ)
    (calls : List (Call σ)) : Prop where
  /-- The user is the one the session was built with, or the one to act for. -/
  user : let after := ((s.run storages workspaces calls) spans scene).1
    after.credentials.userName = origin.userName ∨
      ∃ target, after.target? = some target ∧ target ≠ "" ∧ after.credentials.userName = target
  /-- A change was made by the designated authority, under one of its policies. -/
  changes : ∀ before call later, calls = before ++ call :: later →
    let p := ((s.run storages workspaces before) spans scene).1.credentials.userName
    let t := ((s.run storages workspaces (before ++ [call])) spans scene).1.credentials.userName
    p ≠ t → ∃ authority, designated = some authority ∧ call = .actForTarget authority ∧
      Sanctions authority p t
  /-- Without a designated authority nothing ever changes. -/
  unowned : designated = none →
    ((s.run storages workspaces calls) spans scene).1.credentials = origin
  /-- The user to act for, and the authority that is accepted, stay what they are. -/
  target : ((s.run storages workspaces calls) spans scene).1.target? = s.target?
  accepts : ((s.run storages workspaces calls) spans scene).1.authority =
    designated.map Authority.id

/-- What is kept of a session by every call: its designated authority, the user to act for, and that
its user is this one or the one it was built with. -/
structure Traced (designated : Option Authority) (origin : Credentials) (wanted : Option String)
    (s : Session) : Prop where
  accepts : s.authority = designated.map Authority.id
  target : s.target? = wanted
  user : s.credentials = origin ∨ wanted.getD "" ≠ "" ∧ s.credentials = ⟨wanted.getD ""⟩
  unowned : designated = none → s.credentials = origin

section Traced

variable {designated : Option Authority} {origin : Credentials} {wanted : Option String}
  {all calls : List (Call σ)}

/-- **One call keeps** what is kept. -/
theorem Traced.perform (traced : Traced designated origin wanted s) (foreign : Foreign designated all)
    {call : Call σ} (mem : call ∈ all) :
    Traced designated origin wanted ((s.perform storages workspaces call) spans scene).1 := by
  have goes := perform_goes storages workspaces s call spans scene
  have changed := goes.changed foreign mem traced.accepts
  rw [traced.target] at changed
  refine ⟨goes.authority.trans traced.accepts, goes.target.trans traced.target, ?_, ?_⟩
  · rcases changed with same | ⟨-, -, -, asked, new, -⟩
    · exact same ▸ traced.user
    · exact .inr ⟨asked, new⟩
  · intro nobody
    rcases changed with same | ⟨authority, somebody, -⟩
    · exact same.trans (traced.unowned nobody)
    · cases nobody.symm.trans somebody

/-- A run keeps it. -/
theorem Traced.run (traced : Traced designated origin wanted s) (foreign : Foreign designated all)
    (within : ∀ call ∈ calls, call ∈ all) (scene : Scene σ) :
    Traced designated origin wanted ((s.run storages workspaces calls) spans scene).1 := by
  induction calls generalizing s scene with
  | nil => exact traced
  | cons call calls ih =>
    exact ih (traced.perform foreign (within call (by simp))) (fun c later => within c (by simp [later])) _

/-- **The credentials after a run** of calls on a session. -/
theorem Traced.provenance (traced : Traced designated origin s.target? s)
    (foreign : Foreign designated calls) (scene : Scene σ) :
    Provenance storages workspaces spans designated origin s scene calls := by
  have kept : Traced designated origin s.target? ((s.run storages workspaces calls) spans scene).1 :=
    traced.run foreign (fun _ mem => mem) scene
  refine ⟨?_, ?_, kept.unowned, kept.target, kept.accepts⟩
  · intro after
    rcases kept.user with same | ⟨asked, new⟩
    · exact .inl (congrArg Credentials.userName same)
    · cases wanted : s.target? with
      | none => exact absurd (by rw [wanted]; rfl) asked
      | some target =>
        rw [wanted] at asked new
        exact .inr ⟨target, kept.target.trans wanted, asked, congrArg Credentials.userName new⟩
  · intro before call later split p t changes
    have mem : call ∈ calls := by simp [split]
    have reached : Traced designated origin s.target?
        ((s.run storages workspaces before) spans scene).1 :=
      traced.run foreign (fun c earlier => by simp [split, earlier]) scene
    have one : ((s.run storages workspaces (before ++ [call])) spans scene).1 =
        ((((s.run storages workspaces before) spans scene).1.perform storages workspaces call) spans
          ((s.run storages workspaces before) spans scene).2).1 := by
      rw [run_append]
      rfl
    have goes := perform_goes storages workspaces ((s.run storages workspaces before) spans scene).1
      call spans ((s.run storages workspaces before) spans scene).2
    rw [← one] at goes
    rcases goes.changed foreign mem reached.accepts with same |
      ⟨authority, somebody, acted, -, new, sanctioned⟩
    · exact absurd (congrArg Credentials.userName same.symm) changes
    · refine ⟨authority, somebody, acted, ?_⟩
      have target : t = _ := congrArg Credentials.userName new
      rw [target]
      exact sanctioned

end Traced

/-! ## Sessions from their making on -/

/-- A session that was built. -/
theorem traced_build {r : SessionRequest} {id : String} {designated : Option Authority}
    {after : Scene σ} (named : r.authority = designated.map Authority.id)
    (built : (build r id).outcome spans scene = (.ok s, after)) :
    r.credentials = some s.credentials ∧ Traced designated s.credentials s.target? s := by
  obtain ⟨credentials, given, rfl⟩ := build_ok built
  exact ⟨given, named, rfl, .inl rfl, fun _ => rfl⟩

/-- The authority of an established session: that of the establisher, or else the one that the request
named. -/
structure Designates (e : Establisher) (r : SessionRequest) (designated : Option Authority) : Prop where
  own : ∀ authority, e.authority = some authority → designated = some authority
  named : e.authority = none → r.authority = designated.map Authority.id

/-- A session that was established. -/
theorem traced_establish {providers : Providers σ} {e : Establisher} {r : SessionRequest}
    {id : String} {designated : Option Authority} {after : Scene σ}
    (designates : Designates e r designated)
    (established : (e.establish providers r id).outcome spans scene = (.ok s, after)) :
    ∃ connected, r.credentials = some connected ∧
      (connected.userName ≠ s.credentials.userName → ∃ authority, designated = some authority ∧
        Sanctions authority connected.userName s.credentials.userName) ∧
        Traced designated connected s.target? s := by
  obtain ⟨connected, attributes, given, rfl⟩ := Establisher.establish_settled established
  refine ⟨connected, given, ?_⟩
  cases present : e.authority with
  | none =>
    have plain : e.settled (e.enriched r id connected attributes) =
        e.enriched r id connected attributes := by rw [Establisher.settled, present]
    have same : e.accepting r = r := by rw [Establisher.accepting, present]
    rw [plain]
    refine ⟨fun changes => absurd rfl changes, ?_, rfl, .inl rfl, fun _ => rfl⟩
    rw [Establisher.enriched, same]
    exact designates.named present
  | some authority =>
    cases designates.own authority present
    have accepts : (e.enriched r id connected attributes).authority = some authority.id := by
      rw [Establisher.enriched, Establisher.accepting, present]
      rfl
    have last : e.settled (e.enriched r id connected attributes) =
        (e.enriched r id connected attributes).takenOver authority := by
      rw [Establisher.settled, present]
    rw [last, takenOver]
    split
    · rename_i may
      exact ⟨fun _ => ⟨authority, rfl, sanctions_of_allows may.2.1⟩, accepts, rfl,
        .inr ⟨may.1, rfl⟩, by rintro ⟨⟩⟩
    · exact ⟨fun changes => absurd rfl changes, accepts, rfl, .inl rfl, fun _ => rfl⟩

/-- **Provenance of the credentials.**  In every run of calls on a session, the promise is kept,
whether the session was only built or was established.  An establisher that has an authority makes it
the designated one, whatever the request named. -/
theorem credentials_provenance (storages : Storages σ) (workspaces : Workspaces σ)
    (providers : Providers σ) {designated : Option Authority} {calls : List (Call σ)}
    (foreign : Foreign designated calls) :
    (∀ (r : SessionRequest) id spans spans' (scene after scene' : Scene σ) s,
      r.authority = designated.map Authority.id →
        (build r id).outcome spans scene = (.ok s, after) →
          r.credentials = some s.credentials ∧
            Provenance storages workspaces spans' designated s.credentials s scene' calls) ∧
    ∀ (e : Establisher) (r : SessionRequest) id spans spans' (scene after scene' : Scene σ) s,
      Designates e r designated →
        (e.establish providers r id).outcome spans scene = (.ok s, after) →
          (∀ authority, e.authority = some authority → s.authority = some authority.id) ∧
            ∃ connected, r.credentials = some connected ∧
              (connected.userName ≠ s.credentials.userName →
                ∃ authority, designated = some authority ∧
                  Sanctions authority connected.userName s.credentials.userName) ∧
                Provenance storages workspaces spans' designated connected s scene' calls := by
  constructor
  · intro r id spans spans' scene after scene' s named built
    obtain ⟨given, traced⟩ := traced_build named built
    exact ⟨given, traced.provenance foreign scene'⟩
  · intro e r id spans spans' scene after scene' s designates established
    obtain ⟨connected, given, sanctioned, traced⟩ := traced_establish designates established
    refine ⟨fun authority present => ?_, connected, given, sanctioned,
      traced.provenance foreign scene'⟩
    rw [traced.accepts, designates.own authority present]
    rfl

/-- An authority by which everybody may act for everybody. -/
def stranger : Authority := ⟨⟨1⟩, [⟨⟨[Principals.everyone]⟩, ⟨[Principals.everyone]⟩⟩]⟩

/-- A connection of `gateway`, which wants to act for `bob` and accepts the gatekeeper. -/
def gated : SessionRequest :=
  ⟨some ⟨"gateway"⟩, [("impersonation_target", "bob")], false, false,
    some Establisher.gatekeeper.id, []⟩

/-- A stranger tries both ways to change the user, and the gatekeeper does it. -/
def contested : List (Call World) :=
  [.replaceCredentials stranger ⟨"mallory"⟩, .actForTarget stranger, .submit "q",
    .actForTarget Establisher.gatekeeper, .replaceCredentials stranger ⟨"mallory"⟩]

/-- The session ends up as that of `bob`, which the gatekeeper did. -/
theorem credentials_provenance_contested : ∃ s after,
    Foreign (some Establisher.gatekeeper) contested ∧
      (build gated "s").outcome [] ⟨World.on .empty, []⟩ = (.ok s, after) ∧
        Provenance (World.storages []) World.workspaces [] (some Establisher.gatekeeper)
          ⟨"gateway"⟩ s after contested ∧
          ((s.run (World.storages []) World.workspaces contested) [] after).1.credentials =
            ⟨"bob"⟩ := by
  have foreign : Foreign (some Establisher.gatekeeper) contested := by
    refine ⟨fun authority credentials mem => ?_, by decide⟩
    simp only [contested, List.mem_cons, Call.replaceCredentials.injEq, reduceCtorEq, false_or,
      List.not_mem_nil, or_false] at mem
    rcases mem with ⟨rfl, -⟩ | ⟨rfl, -⟩ <;> decide
  have built : (build gated "s").outcome [] (⟨World.on .empty, []⟩ : Scene World) = (.ok _, _) := rfl
  obtain ⟨-, kept⟩ := (credentials_provenance (World.storages []) World.workspaces World.providers
    foreign).1 gated "s" [] [] _ _ _ _ rfl built
  exact ⟨_, _, foreign, built, kept, rfl⟩

end QuerySession.Session
