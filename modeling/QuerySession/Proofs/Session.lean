import QuerySession.Proofs.Action
import QuerySession.Session.Basic

/-!
# What the operations of a session answer and leave

One lemma for each operation that calls storages or workspaces, by the answers of these.
-/

namespace QuerySession

/-- Reading the properties only reports: those that are not recognised. -/
theorem Properties.read_reports (pairs : List (String × String))
    (spans : List String) :
    ∃ events, Action.Reports (fun _ => Properties.read pairs) spans (.ofPairs pairs) events := by
  obtain ⟨events, unknown⟩ := Action.Reports.forM (Properties.unrecognised pairs) fun name =>
    ⟨_, Action.Reports.emit .warn "Ignoring unknown property" [("property", name)] spans⟩
  exact ⟨_, unknown.bind (Action.Reports.pure _ _)⟩

namespace Session

variable {σ : Type} (storages : Storages σ) (workspaces : Workspaces σ) (s : Session)

/-! ### Building, and who is connected -/

/-- A session that was built is that of its request, which has credentials. -/
theorem build_ok {r : SessionRequest} {id : String} {spans : List String} {scene after : Scene σ}
    {s : Session} (h : (build r id).outcome spans scene = (.ok s, after)) :
    ∃ credentials, r.credentials = some credentials ∧ s = ofRequest r id credentials := by
  unfold build at h
  split at h
  · cases h
  · rename_i credentials given
    obtain ⟨⟨⟩, mid, -, done⟩ := Attempt.bind_ok h
    cases done
    exact ⟨credentials, given, rfl⟩

/-- Building a session only reports. -/
theorem build_reports {r : SessionRequest} {credentials : Credentials}
    (given : r.credentials = some credentials) (id : String) (spans : List String) :
    ∃ events, Attempt.Reports (fun _ => build r id) spans (.ok (ofRequest r id credentials))
      events := by
  obtain ⟨events, reading⟩ :=
    Properties.read_reports r.properties (ofRequest r id credentials).spans
  simp only [build, given]
  exact ⟨_, (((Attempt.Reports.lift reading).bind (.emit _ _ _ _)).within.bind (.pure _ _))⟩

/-- Credentials that were replaced are the new ones, and nothing else has changed. -/
theorem replaceCredentials_ok {s s' : Session} {authority : AuthorityId} {credentials : Credentials}
    {spans : List String} {scene : Scene σ}
    (h : ((s.replaceCredentials authority credentials) spans scene).1 = (.ok (), s')) :
    s' = { s with credentials } := by
  unfold replaceCredentials at h
  split at h
  · cases h
  · split at h
    · cases h
    · cases h
      rfl

/-- What comes of a user whom the client asked to act for: nothing if there is none, and otherwise
the session is that user's, which the authority allows. -/
theorem actForTarget_ok {s s' : Session} {authority : Authority} {spans : List String}
    {scene : Scene σ} (h : ((s.actForTarget authority) spans scene).1 = (.ok (), s')) :
    (s.target?.getD "" = "" ∧ s' = s) ∨
      (s.target?.getD "" ≠ "" ∧
        authority.allows s.credentials.userName (s.target?.getD "") = true ∧
          s' = { s with credentials := ⟨s.target?.getD ""⟩ }) := by
  unfold actForTarget at h
  split at h
  · rename_i none_asked
    cases h
    exact .inl ⟨none_asked, rfl⟩
  · rename_i asked
    split at h
    · cases h
    · rename_i allowed
      refine .inr ⟨asked, by simpa using allowed, ?_⟩
      rw [Action.bind_eq] at h
      cases replaced : (s.replaceCredentials authority.id ⟨s.target?.getD ""⟩) spans scene with
      | mk done after =>
        obtain ⟨result, left⟩ := done
        rw [replaced] at h
        cases result with
        | error e => cases h
        | ok _ =>
          cases h
          exact replaceCredentials_ok (congrArg Prod.fst replaced)

/-- The session after someone tried to replace its credentials: nothing has changed unless the
authority is the one it accepts and the new user has a name. -/
theorem replaceCredentials_left (authority : AuthorityId) (credentials : Credentials)
    (spans : List String) (scene : Scene σ) :
    ((s.replaceCredentials authority credentials) spans scene).1.2 =
      if s.authority = some authority ∧ credentials.userName ≠ "" then { s with credentials }
      else s := by
  unfold replaceCredentials
  by_cases accepted : s.authority = some authority
  · rw [if_neg (not_not_intro accepted)]
    by_cases unnamed : credentials.userName = ""
    · rw [if_pos unnamed, if_neg fun both => both.2 unnamed]
      rfl
    · rw [if_neg unnamed, if_pos ⟨accepted, unnamed⟩]
      rfl
  · rw [if_pos accepted, if_neg fun both => accepted both.1]
    rfl

/-- The session after an authority was asked to let the user to act for take over: nothing has
changed unless there is one, the policies allow it, and the authority is the one it accepts. -/
def takenOver (s : Session) (authority : Authority) : Session :=
  if s.target?.getD "" ≠ "" ∧
      authority.allows s.credentials.userName (s.target?.getD "") = true ∧
        s.authority = some authority.id then
    { s with credentials := ⟨s.target?.getD ""⟩ }
  else s

/-- Nothing but the credentials changes when another user takes over. -/
theorem takenOver_eq (authority : Authority) :
    s.takenOver authority = { s with credentials := (s.takenOver authority).credentials } := by
  unfold takenOver
  split <;> rfl

theorem actForTarget_left (authority : Authority) (spans : List String) (scene : Scene σ) :
    ((s.actForTarget authority) spans scene).1.2 = s.takenOver authority := by
  unfold actForTarget takenOver
  by_cases nobody : s.target?.getD "" = ""
  · rw [if_pos nobody, if_neg fun all => all.1 nobody]
    rfl
  · rw [if_neg nobody]
    cases allowed : authority.allows s.credentials.userName (s.target?.getD "") with
    | false =>
      rw [Bool.not_false, if_pos rfl, if_neg fun all => Bool.false_ne_true all.2.1]
      rfl
    | true =>
      have tried := s.replaceCredentials_left authority.id ⟨s.target?.getD ""⟩ spans scene
      rw [Bool.not_true, if_neg Bool.false_ne_true, Action.bind_eq]
      cases replaced : (s.replaceCredentials authority.id ⟨s.target?.getD ""⟩) spans scene with
      | mk done after =>
        obtain ⟨result, left⟩ := done
        rw [replaced] at tried
        have same : left = _ := tried
        simp only [nobody, ne_eq, not_false_eq_true, and_true, true_and] at same ⊢
        rw [← same]
        cases result <;> rfl

/-- Whoever tries to replace credentials only reports. -/
theorem replaceCredentials_reports (authority : AuthorityId) (credentials : Credentials)
    (spans : List String) : ∃ answer events,
      Action.Reports (fun _ => s.replaceCredentials authority credentials) spans answer events := by
  unfold replaceCredentials
  split
  · exact ⟨_, _, (Action.Reports.emit _ _ _ _).within.bind (Action.Reports.pure _ _)⟩
  · split <;> exact ⟨_, _, Action.Reports.pure _ _⟩

/-- Whoever lets another user take over only reports. -/
theorem actForTarget_reports (authority : Authority) (spans : List String) : ∃ answer events,
    Action.Reports (fun _ => s.actForTarget authority) spans answer events := by
  simp only [actForTarget]
  split
  · exact ⟨_, _, Action.Reports.pure _ _⟩
  · split
    · exact ⟨_, _, Action.Reports.pure _ _⟩
    · obtain ⟨⟨result, left⟩, events, replacing⟩ :=
        s.replaceCredentials_reports authority.id ⟨s.target?.getD ""⟩ spans
      cases result with
      | error e => exact ⟨_, _, replacing.bind (Action.Reports.pure _ _)⟩
      | ok _ =>
        exact ⟨_, _, replacing.bind ((Action.Reports.emit _ _ _ _).bind (Action.Reports.pure _ _))⟩

/-! ### The default schema -/

/-- The session after its default schema was set: only that property can have changed. -/
theorem setDefaultSchema_left (path : String) (current : SchemaNode) (spans : List String)
    (scene : Scene σ) : ((s.setDefaultSchema path current) spans scene).1.2 =
      match current.resolve path with
      | .error _ => s
      | .ok node => { s with properties := s.properties.set Properties.schema node.canonical } := by
  unfold setDefaultSchema
  cases current.resolve path <;> rfl

/-! ### Temporary tables -/

/-- What `registerTable` answers and leaves, by what `ensure` answers and leaves. -/
theorem registerTable_eq (w : Workspace) (name token : String) (spans : List String)
    (scene : Scene σ) : ((s.registerTable storages w name token) spans scene).1 =
      match ((s.locations.ensure storages w) spans scene).1 with
      | (.error e, locations) => (.error e, { s with locations })
      | (.ok _, locations) =>
        (.ok (s.tables.register name token).1,
          { s with locations, tables := (s.tables.register name token).2 }) := by
  unfold Session.registerTable
  rw [Action.bind_eq]
  cases (s.locations.ensure storages w) spans scene with
  | mk done after =>
    obtain ⟨result, locations⟩ := done
    cases result <;> rfl

/-- `registerTable` leaves the locations as `ensure` does, and the session has the same id. -/
theorem registerTable_left (w : Workspace) (name token : String) (spans : List String)
    (scene : Scene σ) :
    ((s.registerTable storages w name token) spans scene).1.2.locations =
        ((s.locations.ensure storages w) spans scene).1.2 ∧
      ((s.registerTable storages w name token) spans scene).1.2.id = s.id := by
  rw [s.registerTable_eq]
  cases ((s.locations.ensure storages w) spans scene).1 with
  | mk result locations => cases result <;> exact ⟨rfl, rfl⟩

/-- `registerTable` calls the storages for `ensure` only. -/
theorem registerTable_outside (w : Workspace) (name token : String) (spans : List String)
    (scene : Scene σ) : ((s.registerTable storages w name token) spans scene).2.outside =
      ((s.locations.ensure storages w) spans scene).2.outside := by
  unfold Session.registerTable
  rw [Action.bind_eq]
  cases (s.locations.ensure storages w) spans scene with
  | mk done after =>
    obtain ⟨result, locations⟩ := done
    cases result <;> rfl

/-- A name without alias needs no workspace to be removed, and nothing is done. -/
theorem removeTable_of_unknown (w : Workspace) {name : String}
    (unknown : s.tables.resolve? name = none) :
    s.removeTable workspaces w name = pure (.ok (), s) := by
  unfold removeTable
  rw [unknown]

/-- What `removeTable` answers and leaves, by what the drop of the alias answers. -/
theorem removeTable_of_known (w : Workspace) {name tableAlias : String}
    (known : s.tables.resolve? name = some tableAlias) (spans : List String) (scene : Scene σ) :
    ((s.removeTable workspaces w name) spans scene).1 =
      match ((workspaces.drop w.key tableAlias).outcome s.spans scene).1 with
      | .error e => (.error e, s)
      | .ok () => (.ok (), { s with tables := (s.tables.remove name).2 }) := by
  unfold removeTable
  rw [known]
  simp only
  rw [Action.bind_eq, Action.within_eq]
  cases (workspaces.drop w.key tableAlias).outcome s.spans scene with
  | mk answer after => cases answer <;> rfl

/-- A name is a temporary table in the temporary workspace, if it has an alias and the workspace
says that a table stands under it. -/
theorem isTemporaryTable_iff (w : Workspace) (settings : TemporarySettings) (name : String)
    (spans : List String) (scene : Scene σ) :
    ((s.isTemporaryTable workspaces w settings name).outcome spans scene).1 = .ok true ↔
      settings.isTemporaryWorkspace w.schema = true ∧
        ∃ tableAlias, s.tables.resolve? name = some tableAlias ∧
          ((workspaces.kindOf w.key tableAlias).outcome s.spans scene).1 = .ok (some .table) := by
  unfold isTemporaryTable
  cases settings.isTemporaryWorkspace w.schema with
  | false => simp [Attempt.pure_eq]
  | true =>
    cases s.tables.resolve? name with
    | none => simp [Attempt.pure_eq]
    | some tableAlias =>
      simp only [Bool.not_true, Bool.false_eq_true, if_false, true_and, Option.some.injEq,
        exists_eq_left', Attempt.bind_eq, Attempt.within_eq]
      cases (workspaces.kindOf w.key tableAlias).outcome s.spans scene with
      | mk answer after =>
        cases answer with
        | error e => simp
        | ok kind => simp [Attempt.pure_eq]

end Session

end QuerySession
