import QuerySession.Proofs.Histories
import QuerySession.Proofs.Session
import QuerySession.Proofs.Tables
import QuerySession.Session.Service

/-!
# Temporary tables follow their history

A service that takes one call at a time has told its clients everything that there is to know
about the temporary tables: the alias of a name is the one that was answered to the first
registration of the name since it was last removed (`Service.standing`).  `Service.run_refines`
says that all look-ups agree with this, in any number of sessions and whatever storages and
workspaces do, and that an alias that is new was never answered before, by any session.

The tables of a session and the history grow together (`Service.Exchange`), so that each call has
to be looked at once.

## Main Definitions

* `Service.standing` — the alias of a name, by what clients were told
* `Service.Exchange`, `Service.Step` — what a call tells, and what it leaves of the tables
* `Service.Refines` — the promise

## Main Results

* `Service.Kept.step` — tables and history grow together
* `Service.run_refines` — the promise is kept
-/

namespace QuerySession

/-! ## What a history says -/

namespace Told

/-- Which session was called. -/
def session : Told → Nat
  | registered k .. | removed k .. | resolved k .. | checked k .. | closed k => k

/-- Whether a table of session `k` was removed, the name being given in any letter case. -/
def takes (k : Nat) (name : String) : Told → Bool
  | removed j other (some _) (.ok ()) => j = k ∧ Text.lowerCase other = Text.lowerCase name
  | _ => false

/-- The alias that was answered to a registration on session `k`, the name being given in any letter
case. -/
def gives? (k : Nat) (name : String) : Told → Option String
  | registered j other (.ok tableAlias) =>
    if j = k ∧ Text.lowerCase other = Text.lowerCase name then some tableAlias else none
  | _ => none

/-- What is told by one session takes nothing from another. -/
theorem takes_of_ne {k : Nat} {told : Told} (other : told.session ≠ k) (name : String) :
    told.takes k name = false := by
  unfold takes
  split
  · exact decide_eq_false fun same => other same.1
  · rfl

/-- What is told by one session gives nothing to another. -/
theorem gives?_of_ne {k : Nat} {told : Told} (other : told.session ≠ k) (name : String) :
    told.gives? k name = none := by
  unfold gives?
  split
  · exact if_neg fun same => other same.1
  · rfl

end Told

namespace Service

/-- The alias of a name in session `k`, by what clients were told: that of the first registration
that returned one, after the last removal that succeeded and found something. -/
def standing (k : Nat) (name : String) (h : List Told) : Option String :=
  (since (Told.takes k name) h).findSome? (Told.gives? k name)

/-- The history decides about one more call: a removal takes the alias, and a registration gives
one if there is none. -/
theorem standing_concat (k : Nat) (name : String) (h : List Told) (told : Told) :
    standing k name (h ++ [told]) =
      if told.takes k name then none else (standing k name h).or (told.gives? k name) := by
  unfold standing
  rw [since_concat]
  split
  · rfl
  · rw [List.findSome?_append, List.findSome?_singleton]

/-- What is told by one session does not matter to another. -/
theorem standing_concat_of_ne {k : Nat} {told : Told} (other : told.session ≠ k) (name : String)
    (h : List Told) : standing k name (h ++ [told]) = standing k name h := by
  rw [standing_concat, told.takes_of_ne other, told.gives?_of_ne other, if_neg Bool.false_ne_true,
    Option.or_none]

/-- Nothing stands in a session that nobody has called. -/
theorem standing_of_untold {k : Nat} {h : List Told} (untold : ∀ told ∈ h, told.session ≠ k)
    (name : String) : standing k name h = none := by
  unfold standing
  rw [List.findSome?_eq_none_iff]
  exact fun told mem => told.gives?_of_ne (untold told (mem_of_mem_since mem)) name

/-- An alias that stands was answered to a registration. -/
theorem registered_of_standing {k : Nat} {name tableAlias : String} {h : List Told}
    (stands : standing k name h = some tableAlias) :
    ∃ other, .registered k other (.ok tableAlias) ∈ h := by
  obtain ⟨told, mem, gives⟩ := List.exists_of_findSome?_eq_some stands
  unfold Told.gives? at gives
  split at gives
  · rename_i j other found
    split at gives
    · rename_i same
      cases gives
      exact ⟨other, same.1 ▸ mem_of_mem_since mem⟩
    · cases gives
  · cases gives

/-! ## What a call does -/

variable {σ : Type} {storages : Storages σ} {workspaces : Workspaces σ} {spans : List String}
  {v u : Service σ} {calls : List (Call σ)} {tokens : List String}

/-- What a call on session `k` tells and leaves of the tables `t`, by the token that came with it.
-/
inductive Exchange (k : Nat) (t : Tables) : Option String → Told → Tables → Prop
  | registered (name token : String) :
      Exchange k t (some token) (.registered k name (.ok (t.register name token).1))
        (t.register name token).2
  | refused (name token : String) (e : Error) :
      Exchange k t (some token) (.registered k name (.error e)) t
  | missed {name : String} (unknown : t.resolve? name = none) :
      Exchange k t none (.removed k name none (.ok ())) t
  | removed (name : String) :
      Exchange k t none (.removed k name (t.resolve? name) (.ok ())) (t.remove name).2
  /-- The table could not be dropped. -/
  | kept (name : String) (e : Error) :
      Exchange k t none (.removed k name (t.resolve? name) (.error e)) t
  | resolved (name : String) :
      Exchange k t none (.resolved k name (t.resolve? name)) t
  | checked (name : String) (result : Except Error Bool) :
      Exchange k t none (.checked k name result) t
  | closed : Exchange k t none (.closed k) t

/-- What a call does, by the token that came with it. -/
inductive Step (v : Service σ) : Option String → Service σ → Prop
  | welcomed {s : Session} (empty : s.tables = .forSession s.id) (scene : Scene σ) :
      Step v none { v with sessions := v.sessions ++ [s], scene }
  | exchanged {k : Nat} {s s' : Session} {token : Option String} {told : Told}
      (at_ : v.sessions[k]? = some s) (exchange : Exchange k s.tables token told s'.tables)
      (same : s'.id = s.id) (scene : Scene σ) :
      Step v token ⟨v.sessions.set k s', scene, v.history ++ [told]⟩
  /-- Nobody was called. -/
  | idle (token : Option String) (scene : Scene σ) : Step v token { v with scene }

/-- The token that comes with a call. -/
def Call.token? : Call σ → Option String
  | register _ _ _ token => some token
  | _ => none

/-- A call on a session does what it does to the session, if there is one. -/
theorem Step.of_on {k : Nat} {token : Option String} {call : Session → Action σ (Told × Session)}
    (each : ∀ s : Session, let done := ((call s) spans v.scene).1
      Exchange k s.tables token done.1 done.2.tables ∧ done.2.id = s.id) :
    Step v token (v.on spans k call) := by
  unfold on
  split
  · exact .idle token v.scene
  · rename_i s at_
    obtain ⟨exchange, same⟩ := each s
    exact .exchanged at_ exchange same _

/-- **What can come out of a call.** -/
theorem Step.of_serve (c : Call σ) : Step v c.token? (v.serve storages workspaces spans c) := by
  cases c with
  | welcome r id =>
    rw [serve]
    split
    · rename_i s scene built
      obtain ⟨credentials, -, rfl⟩ := Session.build_ok built
      exact .welcomed rfl scene
    · exact .idle none _
  | register k w name token =>
    rw [serve]
    refine .of_on fun s => ?_
    have answered := s.registerTable_eq storages w name token spans v.scene
    rw [Action.bind_eq]
    show Exchange k s.tables (some token)
      (.registered k name ((s.registerTable storages w name token) spans v.scene).1.1)
      ((s.registerTable storages w name token) spans v.scene).1.2.tables ∧ _ = s.id
    rw [answered]
    cases ((s.locations.ensure storages w) spans v.scene).1 with
    | mk result locations =>
      cases result with
      | error e => exact ⟨.refused name token e, rfl⟩
      | ok path => exact ⟨.registered name token, rfl⟩
  | remove k w name =>
    rw [serve]
    refine .of_on fun s => ?_
    rw [Action.bind_eq]
    show Exchange k s.tables none
      (.removed k name (s.tables.resolve? name)
        ((s.removeTable workspaces w name) spans v.scene).1.1)
      ((s.removeTable workspaces w name) spans v.scene).1.2.tables ∧ _ = s.id
    cases known : s.tables.resolve? name with
    | none =>
      rw [s.removeTable_of_unknown workspaces w known]
      exact ⟨.missed known, rfl⟩
    | some tableAlias =>
      rw [s.removeTable_of_known workspaces w known]
      cases ((workspaces.drop w.key tableAlias).outcome s.spans v.scene).1 with
      | error e => exact ⟨known ▸ .kept name e, rfl⟩
      | ok _ => exact ⟨known ▸ .removed name, rfl⟩
  | resolve k name =>
    rw [serve]
    exact .of_on fun s => ⟨.resolved name, rfl⟩
  | check k w settings name =>
    rw [serve]
    exact .of_on fun s => ⟨.checked name _, rfl⟩
  | close k =>
    rw [serve]
    exact .of_on fun s => ⟨.closed, rfl⟩
  | outside change => exact .idle none _

/-! ## Tables and history grow together -/

/-- What is told by a session is told as its own. -/
theorem Exchange.session_eq {k : Nat} {t t' : Tables} {token : Option String} {told : Told}
    (exchange : Exchange k t token told t') : told.session = k := by
  cases exchange <;> rfl

/-- Aliases are made alike all along. -/
theorem Exchange.sessionId_eq {k : Nat} {t t' : Tables} {token : Option String} {told : Told}
    (exchange : Exchange k t token told t') : t'.sessionId = t.sessionId := by
  cases exchange with
  | registered name token => exact Tables.sessionId_register
  | _ => rfl

/-- The look-ups of a session after a call, by what was told. -/
theorem Exchange.resolve?_eq {k : Nat} {t t' : Tables} {token : Option String} {told : Told}
    (exchange : Exchange k t token told t') (name : String) :
    t'.resolve? name =
      if told.takes k name then none else (t.resolve? name).or (told.gives? k name) := by
  cases exchange with
  | registered other token =>
    show _ = (t.resolve? name).or
      (if k = k ∧ Text.lowerCase other = Text.lowerCase name then some (t.register other token).1
        else none)
    rw [Tables.resolve?_register]
    simp only [true_and]
    split
    · rename_i same
      rw [Tables.resolve?_congr same.symm]
      cases known : t.resolve? other with
      | some found => rw [Tables.register_of_known known, Option.some_or]
      | none => rw [Option.none_or]
    · rw [Option.or_none]
  | removed other =>
    rw [Tables.resolve?_remove]
    cases known : t.resolve? other with
    | some found =>
      show _ = if decide (k = k ∧ Text.lowerCase other = Text.lowerCase name) = true then none
        else (t.resolve? name).or none
      rw [Option.or_none]
      simp only [true_and, decide_eq_true_eq]
    | none =>
      show _ = (t.resolve? name).or none
      rw [Option.or_none]
      split
      · rename_i same
        rw [← Tables.resolve?_congr same, known]
      · rfl
  | missed unknown => exact Option.or_none.symm
  | kept other e => cases t.resolve? other <;> exact Option.or_none.symm
  | refused | resolved | checked | closed => exact Option.or_none.symm

/-- The tables of every session are what the history says, and every alias that was answered is
made of a token that came with some call. -/
structure Kept (tokens : List String) (v : Service σ) : Prop where
  resolves : ∀ (k : Nat) (s : Session) (name : String), v.sessions[k]? = some s →
    s.tables.resolve? name = standing k name v.history
  own_id : ∀ (k : Nat) (s : Session), v.sessions[k]? = some s → s.tables.sessionId = s.id
  called : ∀ told ∈ v.history, told.session < v.sessions.length
  made : ∀ (k : Nat) (name tableAlias : String), .registered k name (.ok tableAlias) ∈ v.history →
    ∃ s token, v.sessions[k]? = some s ∧ token ∈ tokens ∧ tableAlias = s.id ++ "/" ++ token

/-- A session keeps its place and its identity. -/
theorem Step.session_kept {token : Option String} (taken : Step v token u) {k : Nat} {s : Session}
    (at_ : v.sessions[k]? = some s) : ∃ s', u.sessions[k]? = some s' ∧ s'.id = s.id := by
  cases taken with
  | welcomed empty scene => exact ⟨s, getElem?_append_of_some at_ _, rfl⟩
  | @exchanged j old new token told stood exchange same scene =>
    have bound : j < v.sessions.length := (List.getElem?_eq_some_iff.mp stood).1
    by_cases here : j = k
    · subst here
      cases stood.symm.trans at_
      exact ⟨new, List.getElem?_set_self bound, same⟩
    · exact ⟨s, (List.getElem?_set_ne here).trans at_, rfl⟩
  | idle token scene => exact ⟨s, at_, rfl⟩

/-- An alias that is answered was answered before, or is made of the token that came with the
call. -/
theorem Kept.alias_of_exchange (kept : Kept tokens v) {k : Nat} {s : Session} {t : Tables}
    {token : Option String} {name tableAlias : String} (at_ : v.sessions[k]? = some s)
    (exchange : Exchange k s.tables token (.registered k name (.ok tableAlias)) t) :
    (∃ other, .registered k other (.ok tableAlias) ∈ v.history) ∨
      ∃ token', token = some token' ∧ tableAlias = s.id ++ "/" ++ token' := by
  cases exchange with
  | registered name token =>
    cases known : s.tables.resolve? name with
    | some found =>
      rw [Tables.register_of_known known]
      exact .inl (registered_of_standing ((kept.resolves k s name at_).symm.trans known))
    | none =>
      refine .inr ⟨token, rfl, ?_⟩
      rw [Tables.register_of_unknown known, Tables.aliasOf, kept.own_id k s at_]

/-- **Tables and history grow together.** -/
theorem Kept.step (kept : Kept tokens v) {token : Option String} (taken : Step v token u) :
    Kept (tokens ++ token.toList) u := by
  -- What was made of a token before stays so.
  have earlier {k : Nat} {name tableAlias : String}
      (mem : .registered k name (.ok tableAlias) ∈ v.history) :
      ∃ s token', u.sessions[k]? = some s ∧ token' ∈ tokens ++ token.toList ∧
        tableAlias = s.id ++ "/" ++ token' := by
    obtain ⟨s, token', at_, known, rfl⟩ := kept.made k name tableAlias mem
    obtain ⟨s', there, same⟩ := taken.session_kept at_
    exact ⟨s', token', there, List.mem_append_left _ known, by rw [same]⟩
  cases taken with
  | idle token scene =>
    exact ⟨kept.resolves, kept.own_id, kept.called, fun k name tableAlias mem => earlier mem⟩
  | @welcomed s empty scene =>
    refine ⟨fun k s' name at_ => ?_, fun k s' at_ => ?_, fun told mem => ?_,
      fun k name tableAlias mem => earlier mem⟩
    · rcases getElem?_concat at_ with old | ⟨rfl, rfl⟩
      · exact kept.resolves k s' name old
      · -- Nobody has called the new session.
        rw [standing_of_untold fun told mem => Nat.ne_of_lt (kept.called told mem), empty]
        rfl
    · rcases getElem?_concat at_ with old | ⟨rfl, rfl⟩
      · exact kept.own_id k s' old
      · rw [empty]
        rfl
    · rw [List.length_append]
      exact Nat.lt_add_right 1 (kept.called told mem)
  | @exchanged k s s' token told at_ exchange same scene =>
    have bound : k < v.sessions.length := (List.getElem?_eq_some_iff.mp at_).1
    refine ⟨fun j r name there => ?_, fun j r there => ?_, fun told' mem => ?_,
      fun j name tableAlias mem => ?_⟩
    · by_cases here : k = j
      · subst here
        cases (List.getElem?_set_self bound).symm.trans there
        rw [exchange.resolve?_eq, standing_concat, kept.resolves k s name at_]
      · have other : told.session ≠ j := fun mine => here (exchange.session_eq.symm.trans mine)
        rw [standing_concat_of_ne other]
        exact kept.resolves j r name ((List.getElem?_set_ne here).symm.trans there)
    · by_cases here : k = j
      · subst here
        cases (List.getElem?_set_self bound).symm.trans there
        rw [exchange.sessionId_eq, kept.own_id k s at_, same]
      · exact kept.own_id j r ((List.getElem?_set_ne here).symm.trans there)
    · rw [List.length_set]
      rcases List.mem_append.mp mem with old | last
      · exact kept.called told' old
      · rw [List.mem_singleton.mp last, exchange.session_eq]
        exact bound
    · rcases List.mem_append.mp mem with old | last
      · exact earlier old
      · have mine := List.mem_singleton.mp last
        obtain rfl : j = k := (congrArg Told.session mine).trans exchange.session_eq
        subst mine
        rcases kept.alias_of_exchange at_ exchange with ⟨other, before⟩ | ⟨token', rfl, made⟩
        · exact earlier before
        · exact ⟨s', token', List.getElem?_set_self bound, by simp, by rw [same, made]⟩

/-! ## What is told is true -/

/-- Aliases of any two sessions are told apart by their tokens, if there is no slash in these. -/
theorem token_eq_of_alias_eq {id id' token token' : String} (plain : '/' ∉ token.toList)
    (plain' : '/' ∉ token'.toList) (same : id ++ "/" ++ token = id' ++ "/" ++ token') :
    token = token' := by
  -- The token is what follows the last slash.
  have last {id token : String} (plain : '/' ∉ token.toList) :
      since ('/' == ·) (id ++ "/" ++ token).toList = token.toList := by
    rw [String.toList_append, String.toList_append, List.append_assoc,
      show "/".toList = ['/'] from rfl, List.singleton_append]
    refine since_append_cons (beq_self_eq_true '/') id.toList fun c mem => ?_
    exact beq_eq_false_iff_ne.mpr fun slash => plain (slash.symm ▸ mem)
  apply String.toList_inj.mp
  rw [← last plain, same, last plain']

/-- What was told is true, by what was told before: an alias that is answered stands from then on,
and was never answered before if none stood; and what a removal found, or a look-up answered,
stood. -/
def Faithful (before : List Told) : Told → Prop
  | .registered k name (.ok tableAlias) =>
    standing k name (before ++ [.registered k name (.ok tableAlias)]) = some tableAlias ∧
      (standing k name before = none → ∀ j other, .registered j other (.ok tableAlias) ∉ before)
  | .removed k name had _ => had = standing k name before
  | .resolved k name answer => answer = standing k name before
  | .registered _ _ (.error _) | .checked .. | .closed _ => True

/-- What a call tells is true, if its token is new. -/
theorem Kept.faithful (kept : Kept tokens v) {k : Nat} {s : Session} {t : Tables}
    {token : Option String} {told : Told} (at_ : v.sessions[k]? = some s)
    (exchange : Exchange k s.tables token told t)
    (plain : ∀ token' ∈ tokens ++ token.toList, '/' ∉ token'.toList)
    (fresh : ∀ token' ∈ token, token' ∉ tokens) : Faithful v.history told := by
  have looked (name : String) := kept.resolves k s name at_
  cases exchange with
  | registered name token =>
    constructor
    · rw [standing_concat, ← looked, ← (Exchange.registered name token).resolve?_eq,
        Tables.resolve?_register, if_pos rfl]
    · intro nothing j other mem
      have unknown := (looked name).trans nothing
      rw [Tables.register_of_unknown unknown, Tables.aliasOf] at mem
      obtain ⟨s', token', -, old, same⟩ := kept.made j other _ mem
      have here := token_eq_of_alias_eq (plain token (by simp)) (plain token' (by simp [old])) same
      exact fresh token rfl (here ▸ old)
  | refused => trivial
  | missed unknown => exact unknown.symm.trans (looked _)
  | removed name => exact looked name
  | kept name e => exact looked name
  | resolved name => exact looked name
  | checked => trivial
  | closed => trivial

/-- The tokens that came with calls. -/
def tokensOf (calls : List (Call σ)) : List String := calls.filterMap Call.token?

theorem tokensOf_concat (calls : List (Call σ)) (c : Call σ) :
    tokensOf (calls ++ [c]) = tokensOf calls ++ c.token?.toList := by
  unfold tokensOf
  rw [List.filterMap_append]
  cases c <;> rfl

/-- Calls are served one after the other. -/
theorem run_concat (v : Service σ) (calls : List (Call σ)) (c : Call σ) :
    v.run storages workspaces spans (calls ++ [c]) =
      (v.run storages workspaces spans calls).serve storages workspaces spans c := by
  unfold run
  rw [List.foldl_append]
  rfl

/-- Tables and history have grown together, whatever calls were served. -/
theorem kept_run (scene : Scene σ) (calls : List (Call σ)) :
    Kept (tokensOf calls) ((opened scene).run storages workspaces spans calls) := by
  induction calls using List.reverseRecOn with
  | nil =>
    refine ⟨fun k s name at_ => ?_, fun k s at_ => ?_, fun told mem => ?_,
      fun k name tableAlias mem => ?_⟩
    · cases at_
    · cases at_
    · cases mem
    · cases mem
  | append_singleton calls c ih =>
    rw [tokensOf_concat, run_concat]
    exact ih.step (.of_serve c)

/-- **What is told is true**, if the tokens are distinct and there is no slash in them. -/
theorem faithful_run (scene : Scene σ) (distinct : (tokensOf calls).Nodup)
    (plain : ∀ token ∈ tokensOf calls, '/' ∉ token.toList) :
    Throughout Faithful ((opened scene).run storages workspaces spans calls).history := by
  induction calls using List.reverseRecOn with
  | nil => exact throughout_nil _
  | append_singleton calls c ih =>
    rw [tokensOf_concat] at distinct plain
    have earlier := ih distinct.of_append_left fun token mem =>
      plain token (List.mem_append_left _ mem)
    have kept : Kept (tokensOf calls) ((opened scene).run storages workspaces spans calls) :=
      kept_run scene calls
    rw [run_concat]
    generalize (opened scene).run storages workspaces spans calls = v at earlier kept
    have taken : Step v c.token? (v.serve storages workspaces spans c) := .of_serve c
    generalize v.serve storages workspaces spans c = u at taken
    generalize c.token? = token at taken distinct plain
    cases taken with
    | welcomed empty scene => exact earlier
    | idle token scene => exact earlier
    | exchanged at_ exchange same scene =>
      refine throughout_concat.mpr ⟨earlier, kept.faithful at_ exchange plain ?_⟩
      intro token' here old
      have again := List.disjoint_of_nodup_append distinct old
      exact again (Option.mem_toList.mpr here)

/-! ## The promise -/

/-- Temporary tables refine what clients were told, in a state `v` of a service. -/
structure Refines (workspaces : Workspaces σ) (v : Service σ) : Prop where
  /-- The alias of a name is the one that stands. -/
  resolves : ∀ (k : Nat) (s : Session) (name : String), v.sessions[k]? = some s →
    s.tables.resolve? name = standing k name v.history
  /-- So it was with every answer to a look-up. -/
  answered : ∀ k name answer before after, v.history = before ++ .resolved k name answer :: after →
    answer = standing k name before
  /-- A removal found something exactly if something stood. -/
  found : ∀ k name had result before after,
    v.history = before ++ .removed k name had result :: after → had = standing k name before
  /-- The alias that is answered to a registration is the one that stands from then on, and hence
  the same for all registrations up to a removal. -/
  agrees : ∀ k name tableAlias before after,
    v.history = before ++ .registered k name (.ok tableAlias) :: after →
      standing k name (before ++ [.registered k name (.ok tableAlias)]) = some tableAlias
  /-- If none stood, the alias is new: no session has ever answered it. -/
  fresh : ∀ k name tableAlias before after,
    v.history = before ++ .registered k name (.ok tableAlias) :: after →
      standing k name before = none → ∀ j other, .registered j other (.ok tableAlias) ∉ before
  /-- Aliases begin with the id of their session and a slash. -/
  begins : ∀ (k : Nat) (s : Session) (name tableAlias : String), v.sessions[k]? = some s →
    .registered k name (.ok tableAlias) ∈ v.history →
      ∃ token, tableAlias = s.id ++ "/" ++ token
  /-- A removal of a name without alias succeeds and does nothing, whatever the workspaces are. -/
  unregistered : ∀ (k : Nat) (s : Session) (name : String) (other : Workspaces σ) (w : Workspace),
    v.sessions[k]? = some s → standing k name v.history = none →
      s.removeTable other w name = pure (.ok (), s)
  /-- A name is a temporary table exactly if the workspace is the one in the settings, an alias
  stands, and the workspace says that a table stands under this alias. -/
  temporary : ∀ (k : Nat) (s : Session) (w : Workspace) (settings : TemporarySettings)
    (name : String) (spans : List String), v.sessions[k]? = some s →
      (((s.isTemporaryTable workspaces w settings name).outcome spans v.scene).1 = .ok true ↔
        (settings.workspace ≠ "" ∧ Text.equalUpToAsciiCase settings.workspace w.schema = true) ∧
          ∃ tableAlias, standing k name v.history = some tableAlias ∧
            ((workspaces.kindOf w.key tableAlias).outcome s.spans v.scene).1 = .ok (some .table))

/-- **Temporary tables refine their history.**  After every sequence of calls on any number of
sessions, with any storages and workspaces and any changes of these, the promise is kept, if the
tokens of the registrations are distinct and there is no slash in them. -/
theorem run_refines (storages : Storages σ) (workspaces : Workspaces σ) (spans : List String)
    (scene : Scene σ) (calls : List (Call σ)) (distinct : (tokensOf calls).Nodup)
    (plain : ∀ token ∈ tokensOf calls, '/' ∉ token.toList) :
    Refines workspaces ((opened scene).run storages workspaces spans calls) := by
  have kept : Kept (tokensOf calls) ((opened scene).run storages workspaces spans calls) :=
    kept_run scene calls
  have faithful :
      Throughout Faithful ((opened scene).run storages workspaces spans calls).history :=
    faithful_run scene distinct plain
  constructor
  · exact kept.resolves
  · intro k name answer before after split
    exact faithful before _ after split
  · intro k name had result before after split
    exact faithful before _ after split
  · intro k name tableAlias before after split
    exact (faithful before _ after split).1
  · intro k name tableAlias before after split
    exact (faithful before _ after split).2
  · intro k s name tableAlias at_ mem
    obtain ⟨s', token, there, -, made⟩ := kept.made k name tableAlias mem
    cases at_.symm.trans there
    exact ⟨token, made⟩
  · intro k s name other w at_ nothing
    exact s.removeTable_of_unknown other w ((kept.resolves k s name at_).trans nothing)
  · intro k s w settings name spans' at_
    rw [Session.isTemporaryTable_iff, kept.resolves k s name at_,
      TemporarySettings.isTemporaryWorkspace, Bool.and_eq_true, decide_eq_true_eq]

/-- Storages that do whatever they are asked to. -/
def willing : Storages Unit where
  uri := id
  probe := fun _ _ => pure true
  create := fun _ _ _ => pure ()
  delete := fun _ _ _ => pure true

/-- Workspaces that drop whatever they are asked to, and have a table under every name. -/
def abundant : Workspaces Unit where
  kindOf := fun _ _ => pure (some .table)
  drop := fun _ _ => pure ()

/-- A workspace to try things out with. -/
def scratch : Workspace := ⟨"w1", "dfs.tmp", "m1", ⟨"memory", "", ["tmp"]⟩⟩

/-- Two sessions use the same name; one of them registers it twice, removes it, and registers it
once more. -/
def reused : List (Call Unit) :=
  [.welcome ⟨some ⟨"u"⟩, [], false, false, none, []⟩ "s",
    .welcome ⟨some ⟨"u"⟩, [], false, false, none, []⟩ "s'",
    .register 0 scratch "T" "a", .register 1 scratch "t" "b", .register 0 scratch "t" "c",
    .check 0 scratch .default "t", .remove 0 scratch "t", .remove 0 scratch "t",
    .resolve 0 "T", .register 0 scratch "t" "d"]

/-- The name has one alias up to the removal, and a new one after it. -/
theorem refines_reused : (tokensOf reused).Nodup ∧
    (∀ token ∈ tokensOf reused, '/' ∉ token.toList) ∧
      Refines abundant ((opened ⟨(), []⟩).run willing abundant [] reused) ∧
        ((opened ⟨(), []⟩).run willing abundant [] reused).history =
          [.registered 0 "T" (.ok "s/a"), .registered 1 "t" (.ok "s'/b"),
            .registered 0 "t" (.ok "s/a"), .checked 0 "t" (.ok true),
            .removed 0 "t" (some "s/a") (.ok ()), .removed 0 "t" none (.ok ()),
            .resolved 0 "T" none, .registered 0 "t" (.ok "s/d")] := by
  have distinct : (tokensOf reused).Nodup := by decide
  have plain : ∀ token ∈ tokensOf reused, '/' ∉ token.toList := by decide
  exact ⟨distinct, plain, run_refines willing abundant [] ⟨(), []⟩ reused distinct plain, rfl⟩

end Service

end QuerySession
