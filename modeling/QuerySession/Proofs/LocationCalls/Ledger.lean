import Mathlib.Data.List.Perm.Basic
import QuerySession.Proofs.LocationCalls.Story

/-!
# The books of overlapping calls

What was begun is finished or under way.  `Reachable.balance` is this principle once and for all: if
every step earns as much as it spends, up to what the calls hold, then so does every run.  The
lines of the books below differ only in what is counted.

* `Reachable.attempts_eq` — attempts: made = failed + succeeded + under way
* `Reachable.denials_eq` — errors: every one belongs to a failed attempt or to a closed door
* `Reachable.grants_eq` — paths: every one belongs to a success or to a location found ready
* `Reachable.calls_eq` — calls: made = answered + pending
* `Reachable.answers_eq` — deletions: sent = answered + under way
* `Reachable.counts_eq` — counts: what the deletions found = what the `cleanup`s answered
* `Reachable.deletes_eq` — deletions sent, or still to be sent, are those of the ready locations
-/

namespace QuerySession.LocationCalls

variable {uri : String → String} {t u v : LocationCalls}

/-! ## The principle -/

/-- An amount over a whole history. -/
def total (amount : Happening → Nat) (h : List Happening) : Nat := (h.map amount).sum

/-- An amount over all calls. -/
def stock (amount : Stage → Nat) (t : LocationCalls) : Nat := (t.stages.map amount).sum

theorem total_append_singleton (amount : Happening → Nat) (h : List Happening) (e : Happening) :
    total amount (h ++ [e]) = total amount h + amount e := by
  simp [total]

theorem total_add (a b : Happening → Nat) (h : List Happening) :
    total (fun e => a e + b e) h = total a h + total b h := List.sum_map_add

/-- Counting is summing ones. -/
theorem sum_map_toNat {α : Type} (kind : α → Bool) (l : List α) :
    (l.map fun a => (kind a).toNat).sum = l.countP kind := by
  induction l with
  | nil => rfl
  | cons a l ih =>
    rw [List.map_cons, List.sum_cons, ih, List.countP_cons, Nat.add_comm]
    cases kind a <;> rfl

theorem total_toNat (kind : Happening → Bool) (h : List Happening) :
    total (fun e => (kind e).toNat) h = tally kind h := sum_map_toNat kind h

theorem stock_toNat (kind : Stage → Bool) (t : LocationCalls) :
    stock (fun stage => (kind stage).toNat) t = t.stages.countP kind := sum_map_toNat kind t.stages

/-- What nobody holds adds up to nothing. -/
theorem stock_eq_zero {amount : Stage → Nat} (nobody : ∀ stage ∈ t.stages, amount stage = 0) :
    stock amount t = 0 := by
  apply List.sum_eq_zero
  intro n mem
  obtain ⟨stage, stands, rfl⟩ := List.mem_map.mp mem
  exact nobody stage stands

/-- **The books balance.**  If a new call, and every step of a call, earns what it spends and what
the call holds more than before, then all that was earned was spent or is held. -/
theorem Reachable.balance (h : Reachable uri t) (earned spent : Happening → Nat)
    (held : Stage → Nat)
    (call : ∀ i request, earned (.called i request) =
      spent (.called i request) + held (Stage.first request))
    (shift : ∀ {v : LocationCalls} {i : Nat} {old new : Stage} {happening : Happening}
      {l : Locations},
      v.locations.sessionId = t.locations.sessionId → Shift uri v i old happening new l →
        earned happening + held old = spent happening + held new) :
    total earned t.history = total spent t.history + stock held t := by
  induction h using Reachable.induction with
  | start sessionId spans _ => rfl
  | @step t u happening _ _ taken ih =>
    have before := ih fun same => shift (same.trans taken.sessionId_eq.symm)
    rw [taken.history_eq, total_append_singleton, total_append_singleton, before]
    cases taken with
    | called request =>
      have eq := call t.stages.length request
      have more : stock held (t.join request) = stock held t + held (Stage.first request) := by
        simp [stock, join]
      omega
    | @moved i old new _ l at_ moved =>
      have eq := shift (Step.moved at_ moved).sessionId_eq.symm moved
      have moved : stock held (t.put i new happening l) + held old = stock held t + held new :=
        sum_put held at_ new happening l
      omega

/-! ## Attempts and their results -/

/-- Whether a call is about to answer an error for `path`. -/
def Stage.denying (path : StoragePath) : Stage → Bool
  | leaving p (.error _) => p = path
  | _ => false

/-- Whether a call is about to answer `path`. -/
def Stage.granting (path : StoragePath) : Stage → Bool
  | leaving p (.ok _) => p = path
  | _ => false

/-- Whether a call for `path` has not returned. -/
def Stage.pendingAt (sessionId : String) (path : StoragePath) : Stage → Bool
  | asking w | admitted w => w.locationOf sessionId = path
  | waiting p _ | creating p _ | created p _ | probing p _ | leaving p _ => p = path
  | ensured .. | closing | deleting .. | cleaned _ => false

/-- The calls for `path` that have not returned. -/
def pendingAt (t : LocationCalls) (path : StoragePath) : Nat :=
  t.stages.countP (Stage.pendingAt t.locations.sessionId path)

/-- Whether a call found the location at `path` ready. -/
def Happening.finds (path : StoragePath) : Happening → Bool
  | found _ p => p = path
  | _ => false

/-- **Attempts.**  Every folder that was asked for belongs to an attempt that failed, to one that
succeeded, or to one under way. -/
theorem Reachable.attempts_eq (h : Reachable uri t) (path : StoragePath) :
    tally (Happening.creates path) t.history =
      tally (Happening.fails path) t.history + tally (Happening.confirms path) t.history +
        t.attemptsAt path := by
  have balance := h.balance (fun e => (e.creates path).toNat)
    (fun e => (e.fails path).toNat + (e.confirms path).toNat)
    (fun stage => (stage.attempts path).toNat)
    (fun i request => by cases request <;> rfl)
    (fun _ shift => by
      cases shift <;>
        simp [Happening.creates, Happening.fails, Happening.confirms, Stage.attempts, affirms])
  rwa [total_add, total_toNat, total_toNat, total_toNat, stock_toNat] at balance

/-- **Errors.**  Every failed attempt, and every closed door, is one error. -/
theorem Reachable.denials_eq (h : Reachable uri t) (path : StoragePath) :
    tally (Happening.fails path) t.history + tally (Happening.refuses path) t.history =
      tally (Happening.denies path) t.history + t.stages.countP (Stage.denying path) := by
  have balance := h.balance (fun e => (e.fails path).toNat + (e.refuses path).toNat)
    (fun e => (e.denies path).toNat) (fun stage => (stage.denying path).toNat)
    (fun i request => by cases request <;> rfl)
    (fun _ shift => by
      cases shift with
      | returned =>
        rename_i result
        cases result <;> simp [Happening.fails, Happening.refuses, Happening.denies, Stage.denying]
      | _ =>
        simp [Happening.fails, Happening.refuses, Happening.denies, Stage.denying, affirms])
  rwa [total_add, total_toNat, total_toNat, total_toNat, stock_toNat] at balance

/-- **Paths.**  Every success, and every location found ready, is one path. -/
theorem Reachable.grants_eq (h : Reachable uri t) (path : StoragePath) :
    tally (Happening.confirms path) t.history + tally (Happening.finds path) t.history =
      tally (Happening.grants path) t.history + t.stages.countP (Stage.granting path) := by
  have balance := h.balance (fun e => (e.confirms path).toNat + (e.finds path).toNat)
    (fun e => (e.grants path).toNat) (fun stage => (stage.granting path).toNat)
    (fun i request => by cases request <;> rfl)
    (fun _ shift => by
      cases shift with
      | returned =>
        rename_i result
        cases result <;>
          simp [Happening.confirms, Happening.finds, Happening.grants, Stage.granting]
      | _ =>
        simp [Happening.confirms, Happening.finds, Happening.grants, Stage.granting, affirms])
  rwa [total_add, total_toNat, total_toNat, total_toNat, stock_toNat] at balance

/-- Nobody finds a location that was never made. -/
theorem Reachable.finds_eq_zero (h : Reachable uri t) {path : StoragePath}
    (unconfirmed : tally (Happening.confirms path) t.history = 0) :
    tally (Happening.finds path) t.history = 0 := by
  apply tally_eq_zero_iff.mpr
  intro e mem
  cases e with
  | found i p =>
    apply decide_eq_false
    intro here
    subst here
    have made : Made p t.history := h.made_of_ready.2 i p mem
    exact absurd unconfirmed (Nat.ne_of_gt made.confirmed)
  | _ => rfl

/-- **Calls.**  Every `ensure` answered a path, answered an error, or is pending. -/
theorem Reachable.calls_eq (h : Reachable uri t) (path : StoragePath) :
    tally (Happening.wants t.locations.sessionId path) t.history =
      tally (Happening.grants path) t.history + tally (Happening.denies path) t.history +
        t.pendingAt path := by
  have balance := h.balance (fun e => (e.wants t.locations.sessionId path).toNat)
    (fun e => (e.grants path).toNat + (e.denies path).toNat)
    (fun stage => (stage.pendingAt t.locations.sessionId path).toNat)
    (fun i request => by
      cases request <;>
        simp [Happening.wants, Happening.grants, Happening.denies, Stage.first, Stage.pendingAt])
    (fun same shift => by
      cases shift with
      | returned =>
        rename_i result
        cases result <;>
          simp [Happening.wants, Happening.grants, Happening.denies, Stage.pendingAt]
      | _ =>
        simp [Happening.wants, Happening.grants, Happening.denies, Stage.pendingAt, pathIn, same])
  rwa [total_add, total_toNat, total_toNat, total_toNat, stock_toNat] at balance

/-! ## Deletions -/

/-- The deletions of `path` that a call has not sent yet. -/
def Stage.leftAt (path : StoragePath) : Stage → Nat
  | deleting left _ _ => left.countP fun e => e.1 = path
  | _ => 0

/-- The deletions of `path` that a call waits for. -/
def Stage.underwayAt (path : StoragePath) : Stage → Nat
  | deleting _ underway _ => underway.countP fun e => e.1 = path
  | _ => 0

/-- How many locations a `cleanup` found to delete so far. -/
def Stage.counted : Stage → Nat
  | deleting _ _ count => count
  | _ => 0

/-- Whether a storage answered a deletion of `path`. -/
def Happening.answers (path : StoragePath) : Happening → Bool
  | deleteAnswered _ _ p _ => p = path
  | _ => false

/-- An entry that is picked out of a list is not counted in it any more. -/
theorem countP_eraseIdx {α : Type} {l : List α} {k : Nat} {e : α} (picked : l[k]? = some e)
    (kind : α → Bool) : (l.eraseIdx k).countP kind + (kind e).toNat = l.countP kind := by
  obtain ⟨bound, rfl⟩ := List.getElem?_eq_some_iff.mp picked
  rw [← (List.getElem_cons_eraseIdx_perm bound).countP_eq kind, List.countP_cons]
  cases kind l[k] <;> rfl

/-- **Deletions.**  Every one that was sent was answered or is under way. -/
theorem Reachable.answers_eq (h : Reachable uri t) (path : StoragePath) :
    tally (Happening.deletes path) t.history =
      tally (Happening.answers path) t.history + stock (Stage.underwayAt path) t := by
  have balance := h.balance (fun e => (e.deletes path).toNat) (fun e => (e.answers path).toNat)
    (Stage.underwayAt path)
    (fun i request => by cases request <;> rfl)
    (fun _ shift => by
      cases shift with
      | @deleteSent left underway count k e picked =>
        have one : [e].countP (fun e => decide (e.1 = path)) = (decide (e.1 = path)).toNat := by
          cases hold : decide (e.1 = path) <;> simp [hold]
        simp only [Happening.deletes, Happening.answers, Stage.underwayAt, List.countP_append, one,
          Bool.toNat_false]
        omega
      | @deleteAnswered left underway count k e answer picked =>
        have fewer := countP_eraseIdx picked fun e => decide (e.1 = path)
        simp only [Happening.deletes, Happening.answers, Stage.underwayAt, Bool.toNat_false]
        omega
      | _ => rfl)
  rwa [total_toNat, total_toNat] at balance

/-- **Counts.**  What the deletions found is what the `cleanup`s answered or have counted so far. -/
theorem Reachable.counts_eq (h : Reachable uri t) :
    tally Happening.deleted t.history =
      total Happening.counts t.history + stock Stage.counted t := by
  have balance := h.balance (fun e => e.deleted.toNat) Happening.counts Stage.counted
    (fun i request => by cases request <;> rfl)
    (fun _ shift => by
      cases shift with
      | deleteAnswered answer picked =>
        simp only [Happening.deleted, Happening.counts, Stage.counted]
        omega
      | cleaned => simp [Happening.deleted, Happening.counts, Stage.counted]
      | _ => rfl)
  rwa [total_toNat] at balance

/-- A step that does not lock sends what the call had left to send. -/
theorem Shift.leftAt_eq {i : Nat} {old new : Stage} {happening : Happening} {l : Locations}
    (shift : Shift uri t i old happening new l) (unlocking : old ≠ .closing)
    (path : StoragePath) :
    (happening.deletes path).toNat + new.leftAt path = old.leftAt path := by
  cases shift with
  | locked _ _ => exact absurd rfl unlocking
  | deleteSent picked =>
    have fewer := countP_eraseIdx picked fun e => decide (e.1 = path)
    simp only [Happening.deletes, Stage.leftAt]
    omega
  | _ => simp [Happening.deletes, Stage.leftAt]

/-- A step that does not lock leaves the locations closed or open. -/
theorem Shift.closed_eq {i : Nat} {old new : Stage} {happening : Happening} {l : Locations}
    (shift : Shift uri t i old happening new l) (unlocking : old ≠ .closing) :
    l.closed = t.locations.closed := by
  cases shift with
  | locked _ _ => exact absurd rfl unlocking
  | named => exact Locations.closed_enter
  | _ => rfl

/-- Nobody confirms a location after the end. -/
theorem Shift.not_confirms {i : Nat} {old new : Stage} {happening : Happening} {l : Locations}
    (shift : Shift uri t i old happening new l) (at_ : t.stages[i]? = some old) (gate : Gate t)
    (closed : t.locations.closed = true) (path : StoragePath) :
    happening.confirms path = false := by
  cases shift with
  | settled => cases not_of_countP_eq_zero (gate.nobody_inside closed) at_
  | probeFailed e => simp [Happening.confirms, affirms]
  | nothing => simp [Happening.confirms, affirms]
  | _ => rfl

/-- **Deletions are those of the ready locations.**  Before the locations are closed none is sent;
afterwards, one for each location that was ever confirmed is sent or left to be sent. -/
theorem Reachable.deletes_eq (h : Reachable uri t) (path : StoragePath) :
    tally (Happening.deletes path) t.history + stock (Stage.leftAt path) t =
      if t.locations.closed then tally (Happening.confirms path) t.history else 0 := by
  induction h using Reachable.induction with
  | start sessionId spans _ => rfl
  | @step t u happening before after taken ih =>
    rw [taken.history_eq, tally_append, tally_append, tally_singleton, tally_singleton]
    cases taken with
    | called request =>
      have same : stock (Stage.leftAt path) (t.join request) = stock (Stage.leftAt path) t := by
        cases request <;> simp [stock, join, Stage.first, Stage.leftAt]
      rw [same]
      exact ih
    | @moved i old new _ l at_ shift =>
      have moved : stock (Stage.leftAt path) (t.put i new happening l) + old.leftAt path =
          stock (Stage.leftAt path) t + new.leftAt path :=
        sum_put (Stage.leftAt path) at_ new happening l
      rw [locations_put]
      by_cases locking : old = .closing
      · cases shift with
        | locked unshared free =>
          -- All that are ready are left to be deleted.
          have left : (Stage.deleting t.locations.drain.1 [] 0).leftAt path =
              (t.locations.contains path).toNat := Locations.countP_drain t.locations path
          have none_ : Stage.closing.leftAt path = 0 := rfl
          rw [Locations.closed_drain, if_pos rfl]
          simp only [Happening.deletes, Happening.confirms, Bool.toNat_false]
          cases closed : t.locations.closed with
          | false =>
            have confirmed := before.confirmed_eq closed path
            rw [closed, if_neg Bool.false_ne_true] at ih
            omega
          | true =>
            have nothing := Locations.contains_of_empty (before.gate.emptied closed) path
            rw [closed, if_pos rfl] at ih
            rw [nothing, Bool.toNat_false] at left
            omega
        | _ => cases locking
      · have sent := shift.leftAt_eq locking path
        rw [shift.closed_eq locking]
        cases closed : t.locations.closed with
        | false =>
          rw [closed, if_neg Bool.false_ne_true] at ih
          rw [if_neg Bool.false_ne_true]
          omega
        | true =>
          have unconfirmed := shift.not_confirms at_ before.gate closed path
          rw [closed, if_pos rfl] at ih
          rw [if_pos rfl, unconfirmed, Bool.toNat_false]
          omega

/-- **A location is confirmed once at most**, however often it is asked for. -/
theorem Reachable.confirmed_le_one (h : Reachable uri t) (path : StoragePath) :
    tally (Happening.confirms path) t.history ≤ 1 := by
  induction h using Reachable.induction with
  | start sessionId spans _ => exact Nat.zero_le _
  | @step t u happening before after taken ih =>
    cases open_ : u.locations.closed with
    | false =>
      rw [after.confirmed_eq open_ path]
      exact Bool.toNat_le _
    | true =>
      rw [taken.history_eq, tally_append, tally_singleton]
      cases taken with
      | called request => exact ih
      | @moved i old new _ l at_ shift =>
        have unconfirmed : happening.confirms path = false := by
          by_cases locking : old = .closing
          · cases shift with
            | locked _ _ => rfl
            | _ => cases locking
          · refine shift.not_confirms at_ before.gate ?_ path
            rw [← shift.closed_eq locking]
            exact open_
        rw [unconfirmed]
        exact ih

end QuerySession.LocationCalls
