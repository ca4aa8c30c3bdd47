import QuerySession.Proofs.Registrations.Step
import QuerySession.Proofs.LocationCalls.Accounting

/-!
# What a closed session leaves behind

Making a location takes two calls of its storage: the folder is made, and then looked for.  A session
deletes the locations that were *seen*, and not those that were *made*.  The two differ when the
storage makes the folder but cannot tell whether it is there: the location is then not ready, and the
end of the session passes it over.

`Registrations.Reachable.leftovers` is the exact condition under which nothing is left behind, and
`leftovers_unseen` is a session that leaves a folder behind on a storage that tells nothing untrue
and deletes whatever it is asked to.

The contents of the storages are computed from the history alone.  Nothing is made after the end,
and nothing deleted before, so a path is there if it was made, or was there at first, and was not
deleted (`Reachable.present_eq`).
-/

namespace QuerySession

namespace LocationCalls

variable {uri : String → String} {t u v : LocationCalls}

/-! ## The contents of the storages -/

/-- What is there, by storage and path. -/
abbrev Contents := String → StoragePath → Bool

/-- What is there after something happened: a folder that was made is there, and what was deleted is
not, with all below it. -/
def Contents.after (there : Contents) : Happening → Contents
  | .createAnswered _ storage path (.ok ()) =>
    fun s p => there s p || (s = storage && p = path)
  | .deleteAnswered _ storage path (.ok _) =>
    fun s p => there s p && !(s = storage && p.atOrBelow path)
  | _ => there

/-- What is there after a history. -/
def Contents.since (there : Contents) (h : List Happening) : Contents :=
  h.foldl Contents.after there

theorem Contents.since_append_singleton (there : Contents) (h : List Happening) (e : Happening) :
    there.since (h ++ [e]) = (there.since h).after e := List.foldl_append ..

/-- Whether a storage answered that it made the folder at a path. -/
def Happening.makes (storage : String) (path : StoragePath) : Happening → Bool
  | createAnswered _ s p (.ok ()) => storage = s && path = p
  | _ => false

/-- Whether a storage answered a deletion that takes a path away. -/
def Happening.removes (storage : String) (path : StoragePath) : Happening → Bool
  | deleteAnswered _ s p (.ok _) => storage = s && path.atOrBelow p
  | _ => false

/-- What is there changes only by what is made and what is removed. -/
theorem Contents.after_eq (there : Contents) (e : Happening) (storage : String)
    (path : StoragePath) : there.after e storage path =
      ((there storage path || e.makes storage path) && !e.removes storage path) := by
  cases e with
  | createAnswered i s p answer =>
    cases answer <;> simp [Contents.after, Happening.makes, Happening.removes]
  | deleteAnswered i s p answer =>
    cases answer <;> simp [Contents.after, Happening.makes, Happening.removes]
  | _ => simp [Contents.after, Happening.makes, Happening.removes]

/-- As long as the locations are open, nothing was deleted. -/
theorem Reachable.removed_eq_zero (h : Reachable uri t) (open_ : t.locations.closed = false)
    (storage : String) (path : StoragePath) :
    tally (Happening.removes storage path) t.history = 0 := by
  apply tally_eq_zero_iff.mpr
  intro e mem
  cases e with
  | deleteAnswered i s p answer =>
    have answered : 0 < tally (Happening.answers p) t.history :=
      tally_pos_iff.mpr ⟨_, mem, decide_eq_true rfl⟩
    have sent := h.answers_eq p
    have none_ := h.deletes_eq p
    rw [open_, if_neg Bool.false_ne_true] at none_
    omega
  | _ => rfl

/-- A storage that makes a folder does so while the locations are open. -/
theorem Reachable.open_of_makes (h : Reachable uri t) {happening : Happening}
    (taken : Step uri t happening u) {storage : String} {path : StoragePath}
    (makes : happening.makes storage path = true) : t.locations.closed = false := by
  by_contra closed
  have outside := taken.not_enters h.gate (Bool.not_eq_false _ ▸ closed)
  cases happening <;> first | cases makes | cases outside

/-- **What is there** was there at first, or was made, and was not removed. -/
theorem Reachable.present_eq (h : Reachable uri t) (there : Contents) (storage : String)
    (path : StoragePath) : there.since t.history storage path =
      ((there storage path || 0 < tally (Happening.makes storage path) t.history) &&
        tally (Happening.removes storage path) t.history = 0) := by
  induction h using Reachable.induction with
  | start sessionId spans _ => simp [Contents.since, idle]
  | @step t u happening before _ taken ih =>
    rw [taken.history_eq, Contents.since_append_singleton, Contents.after_eq, ih, tally_append,
      tally_append, tally_singleton, tally_singleton]
    cases makes : happening.makes storage path with
    | true =>
      -- Nothing was deleted yet.
      have none_ := before.removed_eq_zero (before.open_of_makes taken makes) storage path
      have not_removes : happening.removes storage path = false := by
        cases happening <;> first | rfl | cases makes
      simp [none_, not_removes]
    | false =>
      cases removes : happening.removes storage path <;> simp

/-! ## What was made, and what covers it -/

/-- A call had the folder at a path made, which was not there before. -/
def Brought (there : Contents) (storage : String) (path : StoragePath) (h : List Happening) :
    Prop :=
  ∃ i before after, h = before ++ .createAnswered i storage path (.ok ()) :: after ∧
    there.since before storage path = false

/-- Some call was told that a location is there, at or above a path and on the same storage. -/
def Covered (sessionId : String) (storage : String) (path : StoragePath) (h : List Happening) :
    Prop :=
  ∃ above, path.atOrBelow above = true ∧ namer? sessionId above h = some storage ∧ Granted above h

/-- Storages that can tell whether a folder is there tell the truth. -/
def Honest (there : Contents) (h : List Happening) : Prop :=
  ∀ i storage path found before after,
    h = before ++ .probeAnswered i storage path (.ok found) :: after →
      found = there.since before storage path

/-- No deletion fails. -/
def NeverFails (h : List Happening) : Prop :=
  ∀ i storage path e, .deleteAnswered i storage path (.error e) ∉ h

/-- What was brought about was made. -/
theorem Brought.made {there : Contents} {storage : String} {path : StoragePath}
    {h : List Happening} (brought : Brought there storage path h) :
    ∃ i, .createAnswered i storage path (.ok ()) ∈ h := by
  obtain ⟨i, before, after, rfl, -⟩ := brought
  exact ⟨i, by simp⟩

/-- A folder that was made at some place of a history, and was not there before. -/
theorem Brought.of_getElem? {there : Contents} {storage : String} {path : StoragePath}
    {h : List Happening} {k i : Nat} (made : h[k]? = some (.createAnswered i storage path (.ok ())))
    (absent : there.since (h.take k) storage path = false) : Brought there storage path h := by
  obtain ⟨bound, here⟩ := List.getElem?_eq_some_iff.mp made
  refine ⟨i, h.take k, h.drop (k + 1), ?_, absent⟩
  rw [← here, ← List.drop_eq_getElem_cons bound, List.take_append_drop]

/-- Who has nothing left waits for no answer. -/
theorem Stage.underwayAt_eq_zero {stage : Stage} (spent : stage.spent = true)
    (path : StoragePath) : stage.underwayAt path = 0 := by
  cases stage with
  | deleting left underway count =>
    cases underway with
    | nil => rfl
    | cons e underway => cases left <;> cases spent
  | _ => rfl

/-- **What is removed is what is covered**, when a `cleanup` has returned. -/
theorem Reachable.removed_iff (h : Reachable uri t) {i count : Nat}
    (returned : .cleaned i count ∈ t.history) (clean : NeverFails t.history) (storage : String)
    (path : StoragePath) : 0 < tally (Happening.removes storage path) t.history ↔
      Covered t.locations.sessionId storage path t.history := by
  have accounts := h.accounted
  rw [tally_pos_iff]
  constructor
  · rintro ⟨e, mem, removes⟩
    cases e with
    | deleteAnswered j s above answer =>
      cases answer with
      | error e => cases removes
      | ok found =>
        simp only [Happening.removes, Bool.and_eq_true, decide_eq_true_eq] at removes
        obtain ⟨rfl, below⟩ := removes
        refine ⟨above, below, accounts.one_storage _ mem above storage (.inr rfl), ?_⟩
        -- It was asked for, and only what was granted is.
        by_contra ungranted
        have unsent := (accounts.deletions i count returned above).2 ungranted
        have answered : 0 < tally (Happening.answers above) t.history :=
          tally_pos_iff.mpr ⟨_, mem, decide_eq_true rfl⟩
        have sent := h.answers_eq above
        omega
    | _ => cases removes
  · rintro ⟨above, below, named, granted⟩
    have sent := (accounts.deletions i count returned above).1 granted
    have answered := h.answers_eq above
    have nothing_underway : stock (Stage.underwayAt above) t = 0 :=
      h.stock_eq_zero_of_spent returned fun spent => Stage.underwayAt_eq_zero spent above
    have some_ : 0 < tally (Happening.answers above) t.history := by omega
    obtain ⟨e, mem, answers⟩ := tally_pos_iff.mp some_
    cases e with
    | deleteAnswered j s p answer =>
      cases of_decide_eq_true answers
      have same := accounts.one_storage _ mem above s (.inr rfl)
      cases named.symm.trans same
      cases answer with
      | error e => exact absurd mem (clean j storage above e)
      | ok found => exact ⟨_, mem, by simp [Happening.removes, below]⟩
    | _ => cases answers

/-- A storage that is asked to look for a folder has made it, and it is still there. -/
theorem Reachable.present_of_probed (h : Reachable uri t) (there : Contents) {i : Nat}
    {storage : String} {path : StoragePath} {answer : Except Error Bool}
    {before after : List Happening}
    (split : t.history = before ++ .probeAnswered i storage path answer :: after) :
    there.since before storage path = true := by
  obtain ⟨u, v, moves, reached, rfl, taken, -, -⟩ := h.moment split
  have at_ : u.stages[i]? = some (.probing path storage) := by
    cases taken with
    | moved at_ shift => cases shift <;> exact at_
  have open_ : u.locations.closed = false := by
    by_contra closed
    have nobody := reached.gate.nobody_inside (Bool.not_eq_false _ ▸ closed)
    cases not_of_countP_eq_zero nobody at_
  obtain ⟨w, -, eq⟩ := reached.story at_
  have mine : .createAnswered i storage path (.ok ()) ∈ own i u.history := by
    rw [eq]
    simp [tried]
  have made : 0 < tally (Happening.makes storage path) u.history :=
    tally_pos_iff.mpr ⟨_, (mem_own_iff.mp mine).1, by simp [Happening.makes]⟩
  rw [reached.present_eq there storage path, reached.removed_eq_zero open_ storage path]
  simp [made]

/-- **On storages that can tell, what was made was granted**, once the locations are closed. -/
theorem Reachable.granted_of_made (h : Reachable uri t) (closed : t.locations.closed = true)
    {there : Contents} (honest : Honest there t.history)
    (told : ∀ i storage path e, .probeAnswered i storage path (.error e) ∉ t.history) {i : Nat}
    {storage : String} {path : StoragePath}
    (mem : .createAnswered i storage path (.ok ()) ∈ t.history) : Granted path t.history := by
  have nobody := h.gate.nobody_inside closed
  obtain ⟨stage, at_, story, mine⟩ := h.story_of_mem mem
  -- The attempt went on to the look, and the look could only say yes.
  have settled {w : Workspace} {p : StoragePath} {done : List Happening}
      {result : Except Error StoragePath} (ending : Ending uri i w p done result)
      (whole : ∀ e ∈ done, e ∈ t.history)
      (here : .createAnswered i storage path (.ok ()) ∈ done) : p = path ∧ result = .ok path := by
    cases ending with
    | refused => simp at here
    | found => simp [begun] at here
    | createFailed s e => simp [begun] at here
    | probeFailed s e =>
      have seen : .probeAnswered i s p (.error e) ∈ t.history := whole _ (by simp)
      exact absurd seen (told i s p e)
    | nothing s =>
      have seen : .probeAnswered i s p (.ok false) ∈ t.history := whole _ (by simp)
      obtain ⟨before, after, split⟩ := List.append_of_mem seen
      have absent := honest i s p false before after split
      have present := h.present_of_probed there split
      exact absurd (absent.trans present) Bool.false_ne_true
    | settled s =>
      obtain ⟨-, rfl⟩ : storage = s ∧ path = p := by simpa [begun, tried] using here
      exact ⟨rfl, rfl⟩
  have of_own {e : Happening} (mine : e ∈ own i t.history) : e ∈ t.history :=
    (mem_own_iff.mp mine).1
  change Story uri t.locations.sessionId i (own i t.history) stage at story
  change _ ∈ own i t.history at mine
  cases stage with
  | asking w =>
    rw [story] at mine
    simp at mine
  | leaving p result =>
    obtain ⟨w, -, ending⟩ := story
    obtain ⟨-, rfl⟩ := settled ending (fun _ => of_own) mine
    cases not_of_countP_eq_zero nobody at_
  | ensured p result =>
    obtain ⟨w, done, -, ending, eq⟩ := story
    have before : ∀ e ∈ done, e ∈ t.history := fun e mem => of_own (by
      rw [eq]
      exact List.mem_append_left _ mem)
    rw [eq] at mine
    rcases List.mem_append.mp mine with here | last
    · obtain ⟨rfl, rfl⟩ := settled ending before here
      exact ⟨i, h.returned_of_ensured at_⟩
    · cases List.mem_singleton.mp last
  | closing | deleting left underway count | cleaned count => cases story.ends rfl mine
  | _ => cases not_of_countP_eq_zero nobody at_

end LocationCalls

/-! ## What is left behind -/

open LocationCalls

/-- **What a closed session leaves behind.**  Once `close` has returned on storages that delete
whatever they are asked to, no folder that the session brought about is there if and only if each lies
at or below a location of its storage that some call was told is there.  On storages that can always
tell whether a folder is there, and tell the truth, nothing is left behind. -/
theorem Registrations.Reachable.leftovers {uri : String → String} {d : Registrations}
    (h : Registrations.Reachable uri d) {count : Nat} (returned : .closed count ∈ d.errands)
    (clean : NeverFails d.calls.history) (there : Contents) :
    ((∀ storage path, Brought there storage path d.calls.history →
        there.since d.calls.history storage path = false) ↔
      ∀ storage path, Brought there storage path d.calls.history →
        Covered d.calls.locations.sessionId storage path d.calls.history) ∧
    (Honest there d.calls.history →
      (∀ i storage path e, .probeAnswered i storage path (.error e) ∉ d.calls.history) →
        ∀ storage path, Brought there storage path d.calls.history →
          there.since d.calls.history storage path = false) := by
  have reached := h.calls
  obtain ⟨i, cleaned⟩ := h.cleaned_of_closed returned
  -- A folder that was brought about is there unless it was removed.
  have gone_iff {storage : String} {path : StoragePath}
      (brought : Brought there storage path d.calls.history) :
      there.since d.calls.history storage path = false ↔
        Covered d.calls.locations.sessionId storage path d.calls.history := by
    obtain ⟨j, mem⟩ := brought.made
    have made : 0 < tally (Happening.makes storage path) d.calls.history :=
      tally_pos_iff.mpr ⟨_, mem, by simp [Happening.makes]⟩
    rw [← reached.removed_iff cleaned clean storage path, reached.present_eq there storage path]
    simp [made, Nat.pos_iff_ne_zero]
  constructor
  · constructor
    · exact fun gone storage path brought => (gone_iff brought).mp (gone storage path brought)
    · exact fun covered storage path brought => (gone_iff brought).mpr (covered storage path brought)
  · intro honest told storage path brought
    obtain ⟨j, mem⟩ := brought.made
    have closed := reached.closed_of_cleaned cleaned
    refine (gone_iff brought).mpr ⟨path, path.atOrBelow_self, ?_, ?_⟩
    · exact reached.namer_of_provisions mem rfl
    · exact reached.granted_of_made closed honest told mem

/-- Whether a storage told whether a folder is there, and told `found`. -/
def LocationCalls.Happening.tells (found : Bool) : Happening → Bool
  | probeAnswered _ _ _ (.ok told) => told = found
  | _ => false

/-- Whether a storage could not tell whether a folder is there. -/
def LocationCalls.Happening.hides : Happening → Bool
  | probeAnswered _ _ _ (.error _) => true
  | _ => false

/-- Whether a deletion failed. -/
def LocationCalls.Happening.keeps : Happening → Bool
  | deleteAnswered _ _ _ (.error _) => true
  | _ => false

/-- Something of a kind that never happened did not happen. -/
theorem LocationCalls.not_mem_of_tally (kind : Happening → Bool) {h : List Happening}
    (never : tally kind h = 0) {e : Happening} (of_kind : kind e = true) : e ∉ h := by
  intro mem
  exact Bool.false_ne_true ((tally_eq_zero_iff.mp never e mem).symm.trans of_kind)

/-- A table is registered, and the session closed. -/
def seen : List Registrations.Move :=
  [.register scratch "t" "a", .locations (.proceed 0), .locations (.proceed 0),
    .locations (.proceed 0), .locations (.create 0 (.ok ())), .locations (.proceed 0),
    .locations (.probe 0 (.ok true)), .locations (.proceed 0), .enlist 0, .close,
    .locations (.proceed 1), .locations (.send 1 0), .locations (.delete 1 0 (.ok true)),
    .locations (.proceed 1), .report 1]

/-- Nothing is left behind. -/
theorem leftovers_seen : ∃ d, Registrations.fresh.run id seen = some d ∧ .closed 1 ∈ d.errands ∧
    NeverFails d.calls.history ∧
      (∀ storage path, Brought (fun _ _ => false) storage path d.calls.history →
        Contents.since (fun _ _ => false) d.calls.history storage path = false) := by
  refine ⟨_, rfl, List.mem_of_getElem? (i := 1) rfl, ?_, ?_⟩
  · exact fun i storage path e => not_mem_of_tally Happening.keeps rfl rfl
  · refine (Registrations.Reachable.leftovers (.of_trial seen rfl)
      (List.mem_of_getElem? (i := 1) rfl)
      (fun i storage path e => not_mem_of_tally Happening.keeps rfl rfl) fun _ _ => false).2 ?_ ?_
    · -- What a storage said was that the folder is there, and it is.
      intro i storage path found before after split
      cases found with
      | true =>
        have reached : Registrations.Reachable id _ := .of_trial seen rfl
        exact (reached.calls.present_of_probed _ split).symm
      | false =>
        have mem := split ▸ List.mem_append_right before List.mem_cons_self
        exact absurd mem (not_mem_of_tally (Happening.tells false) rfl rfl)
    · exact fun i storage path e => not_mem_of_tally Happening.hides rfl rfl

/-- A table is registered on a storage that makes the folder, but cannot tell whether it is there;
and the session closed. -/
def unseen : List Registrations.Move :=
  [.register scratch "t" "a", .locations (.proceed 0), .locations (.proceed 0),
    .locations (.proceed 0), .locations (.create 0 (.ok ())), .locations (.proceed 0),
    .locations (.probe 0 (.error .unreadable)), .locations (.proceed 0), .enlist 0, .close,
    .locations (.proceed 1), .locations (.proceed 1), .report 1]

/-- The folder is left behind, although no storage told an untruth and no deletion failed. -/
theorem leftovers_unseen : ∃ d path, Registrations.fresh.run id unseen = some d ∧
    .closed 0 ∈ d.errands ∧ NeverFails d.calls.history ∧ Honest (fun _ _ => false) d.calls.history ∧
      Brought (fun _ _ => false) "m1" path d.calls.history ∧
        Contents.since (fun _ _ => false) d.calls.history "m1" path = true := by
  refine ⟨_, ⟨"memory", "", ["tmp", "s"]⟩, rfl, List.mem_of_getElem? (i := 1) rfl, ?_, ?_, ?_, ?_⟩
  · exact fun i storage path e => not_mem_of_tally Happening.keeps rfl rfl
  · intro i storage path found before after split
    have mem := split ▸ List.mem_append_right before List.mem_cons_self
    cases found with
    | true => exact absurd mem (not_mem_of_tally (Happening.tells true) rfl rfl)
    | false => exact absurd mem (not_mem_of_tally (Happening.tells false) rfl rfl)
  · exact Brought.of_getElem? (k := 4) (i := 0) rfl rfl
  · rfl

end QuerySession
