import QuerySession.Proofs.Action
import QuerySession.Proofs.LocationCalls.Gate

/-!
# One call at a time

`Locations.ensure` and `Locations.cleanup` are the calls of a machine that nobody else uses.  Here a
call of the machine of `LocationCalls` is followed from its beginning to its end, with the answers
that the storages give, while all other calls stand still; it ends with the locations and the result
of the operation.

* `run_ensureAlone` — an `ensure` that nobody disturbs is `Locations.ensure`
* `run_cleanupAlone` — a `cleanup` that nobody disturbs is `Locations.cleanup`
-/

namespace QuerySession

variable {σ : Type}

/-! ## The operations, by the answers of the storages -/

namespace Locations

variable (storages : Storages σ) {storage : String} {path : StoragePath}

/-- What comes of an attempt, by the answers of its storage. -/
def verdict (path : StoragePath) (uri : String) :
    Except Error Unit → Except Error Bool → Except Error Unit
  | .error e, _ => .error (provisionError path uri (.error e))
  | .ok (), .error e => .error (provisionError path uri (.error e))
  | .ok (), .ok false => .error (provisionError path uri .unknown)
  | .ok (), .ok true => .ok ()

/-- An attempt that is blamed on a location answers as before, but for its error. -/
theorem blaming_eq {α : Type} (uri : String) (x : Attempt σ α) (spans : List String)
    (scene : Scene σ) :
    (blaming path uri x).outcome spans scene =
      match x.outcome spans scene with
      | (.ok a, after) => (.ok a, after)
      | (.error e, after) => (.error (provisionError path uri (.error e)), after) := by
  unfold blaming
  rw [Attempt.outcome, ExceptT.run_mk, Action.bind_eq]
  cases x.outcome spans scene with
  | mk result after => cases result <;> rfl

/-- What an attempt answers: its storage is asked to make the folder, and then whether it is there. -/
theorem provision_eq (spans : List String) (scene : Scene σ) :
    let create := (storages.create storage path .temporary).outcome spans scene
    let probe := (storages.probe storage path).outcome spans create.2
    ((provision storages storage path).outcome spans scene).1 =
      verdict path (storages.uri storage) create.1 probe.1 := by
  unfold provision
  simp only [Attempt.bind_eq, blaming_eq]
  cases (storages.create storage path .temporary).outcome spans scene with
  | mk create after =>
    cases create with
    | error e => rfl
    | ok _ =>
      simp only
      cases (storages.probe storage path).outcome spans after with
      | mk probe last =>
        cases probe with
        | error e => rfl
        | ok there => cases there <;> rfl

/-- What `ensure` answers and leaves, by what the attempt answers. -/
theorem ensure_eq (l : Locations) (w : Workspace) (spans : List String) (scene : Scene σ) :
    ((l.ensure storages w) spans scene).1 =
      if l.closed then (.error (closedError (w.locationOf l.sessionId)), l)
      else
        let (location, entered) := l.enter (w.locationOf l.sessionId) w.storage
        if location.ready then (.ok (w.locationOf l.sessionId), entered)
        else
          match ((provision storages location.storage
              (w.locationOf l.sessionId)).outcome entered.spans scene).1 with
          | .ok () =>
            (.ok (w.locationOf l.sessionId), entered.settle (w.locationOf l.sessionId))
          | .error e => (.error e, entered) := by
  unfold ensure
  split
  · rfl
  · simp only
    split
    · rfl
    · rw [Action.bind_eq, Action.within_eq]
      split <;> rename_i attempt <;> rw [attempt] <;> rfl

/-- Whether a deletion found something, by what its storage answers. -/
theorem deleteOne_eq (spans : List String) (scene : Scene σ) :
    ((deleteOne storages path storage) spans scene).1 =
      LocationCalls.affirms ((storages.delete storage path true).outcome spans scene).1 := by
  unfold deleteOne
  rw [Action.bind_eq]
  cases answered : (storages.delete storage path true).outcome spans scene with
  | mk answer after =>
    cases answer with
    | error e => rfl
    | ok deleted => cases deleted <;> rfl

/-- How many deletions found something. -/
theorem deleteAll_cons (e : StoragePath × String) (rest : List (StoragePath × String))
    (spans : List String) (scene : Scene σ) :
    ((deleteAll storages (e :: rest)) spans scene).1 =
      (LocationCalls.affirms ((storages.delete e.2 e.1 true).outcome spans scene).1).toNat +
        ((deleteAll storages rest) spans ((deleteOne storages e.1 e.2) spans scene).2).1 := by
  rw [← deleteOne_eq]
  show (if ((deleteOne storages e.1 e.2) spans scene).1 then 1 else 0) + _ = _
  cases ((deleteOne storages e.1 e.2) spans scene).1 <;> rfl

/-- What `cleanup` answers and leaves. -/
theorem cleanup_eq (l : Locations) (spans : List String) (scene : Scene σ) :
    ((l.cleanup storages) spans scene).1 =
      (((deleteAll storages l.drain.1) l.spans scene).1, l.drain.2) := rfl

end Locations

namespace LocationCalls

variable {uri : String → String} {t u : LocationCalls}

/-! ## A call among others -/

/-- One more call, besides those of `t`. -/
def beside (t : LocationCalls) (l : Locations) (stage : Stage) (h : List Happening) :
    LocationCalls :=
  ⟨l, t.stages ++ [stage], h⟩

section Beside

variable (l l' : Locations) (stage stage' : Stage) (h : List Happening)

theorem stage_beside : (t.beside l stage h).stages[t.stages.length]? = some stage := by
  simp [beside]

theorem put_beside (happening : Happening) :
    (t.beside l stage h).put t.stages.length stage' happening l' =
      t.beside l' stage' (h ++ [happening]) := by
  simp [beside, put]

theorem writers_beside : (t.beside l stage h).writers = t.writers + stage.excludes.toNat := by
  simp only [writers, beside, List.countP_append]
  cases hold : stage.excludes <;> simp [hold]

theorem readers_beside : (t.beside l stage h).readers = t.readers + stage.shares.toNat := by
  simp only [readers, beside, List.countP_append]
  cases hold : stage.shares <;> simp [hold]

theorem attemptsAt_beside (path : StoragePath) : (t.beside l stage h).attemptsAt path =
    t.attemptsAt path + (stage.attempts path).toNat := by
  simp only [attemptsAt, beside, List.countP_append]
  cases hold : stage.attempts path <;> simp [hold]

end Beside

/-- The call, and nobody else, comes from one stage to another. -/
def Goes (uri : String → String) (t : LocationCalls) (moves : List Move) (l : Locations)
    (stage : Stage) (l' : Locations) (stage' : Stage) : Prop :=
  ∀ h, ∃ h', (t.beside l stage h).run uri moves = some (t.beside l' stage' h')

section Goes

variable {l l' l'' : Locations} {stage stage' stage'' : Stage} {moves : List Move}

theorem Goes.rest : Goes uri t [] l stage l stage := fun h => ⟨h, rfl⟩

/-- One step, and then the others. -/
theorem Goes.cons {m : Move}
    (one : ∀ h, ∃ e, (t.beside l stage h).step uri m =
      some ((t.beside l stage h).put t.stages.length stage' e l'))
    (rest : Goes uri t moves l' stage' l'' stage'') :
    Goes uri t (m :: moves) l stage l'' stage'' := by
  intro h
  obtain ⟨e, step⟩ := one h
  rw [put_beside] at step
  obtain ⟨h', run⟩ := rest (h ++ [e])
  exact ⟨h', Schedule.cons step run⟩

/-- The call goes on by itself, and then as before. -/
theorem Goes.proceed
    (next : ∀ h, ∃ e, (t.beside l stage h).proceed t.stages.length stage =
      some ((t.beside l stage h).put t.stages.length stage' e l'))
    (rest : Goes uri t moves l' stage' l'' stage'') :
    Goes uri t (.proceed t.stages.length :: moves) l stage l'' stage'' := by
  refine Goes.cons (fun h => ?_) rest
  obtain ⟨e, one⟩ := next h
  refine ⟨e, ?_⟩
  rw [step, stage_beside]
  exact one

/-- The call returns. -/
theorem Goes.returned {path : StoragePath} {result : Except Error StoragePath} :
    Goes uri t [.proceed t.stages.length] l (.leaving path result) l (.ensured path result) :=
  Goes.proceed (fun _ => ⟨_, rfl⟩) Goes.rest

/-- The attempt of a call, and its return. -/
theorem Goes.attempted {path : StoragePath} {storage : String} (create : Except Error Unit)
    (probe : Except Error Bool) :
    let done : Except Error StoragePath × Locations :=
      match Locations.verdict path (uri storage) create probe with
      | .ok () => (.ok path, l.settle path)
      | .error e => (.error e, l)
    Goes uri t
      (.create t.stages.length create ::
        match create with
        | .error _ => [.proceed t.stages.length]
        | .ok () => [.proceed t.stages.length, .probe t.stages.length probe,
            .proceed t.stages.length])
      l (.creating path storage) done.2 (.ensured path done.1) := by
  have made (h : List Happening) : ∃ e, (t.beside l (.creating path storage) h).step uri
      (.create t.stages.length create) = some ((t.beside l (.creating path storage) h).put
        t.stages.length (Stage.afterCreate path storage (uri storage) create) e l) := by
    refine ⟨.createAnswered t.stages.length storage path create, ?_⟩
    simp only [step, stage_beside]
    rfl
  have looked (h : List Happening) : ∃ e, (t.beside l (.probing path storage) h).step uri
      (.probe t.stages.length probe) = some ((t.beside l (.probing path storage) h).put
        t.stages.length (Stage.afterProbe path (uri storage) probe) e
          (if affirms probe then l.settle path else l)) := by
    refine ⟨.probeAnswered t.stages.length storage path probe, ?_⟩
    simp only [step, stage_beside]
    rfl
  cases create with
  | error e => exact Goes.cons made Goes.returned
  | ok _ =>
    have asked {moves : List Move} {l' : Locations} {stage' : Stage}
        (rest : Goes uri t moves l (.probing path storage) l' stage') :
        Goes uri t (.create t.stages.length (.ok ()) :: .proceed t.stages.length :: moves) l
          (.creating path storage) l' stage' :=
      Goes.cons made (Goes.proceed (fun _ => ⟨_, rfl⟩) rest)
    cases probe with
    | error e => exact asked (Goes.cons looked Goes.returned)
    | ok there => cases there <;> exact asked (Goes.cons looked Goes.returned)

end Goes

/-! ## Calls that nobody disturbs -/

/-- The steps of an `ensure` that nobody disturbs, with the answers it gets. -/
def ensureSteps (t : LocationCalls) (w : Workspace) (create : Except Error Unit)
    (probe : Except Error Bool) : List Move :=
  .proceed t.stages.length ::
    if t.locations.closed then [.proceed t.stages.length]
    else .proceed t.stages.length ::
      if t.locations.contains (t.pathIn w) then [.proceed t.stages.length, .proceed t.stages.length]
      else .proceed t.stages.length :: .create t.stages.length create ::
        match create with
        | .error _ => [.proceed t.stages.length]
        | .ok () => [.proceed t.stages.length, .probe t.stages.length probe,
            .proceed t.stages.length]

/-- **An `ensure` that nobody disturbs** ends with the locations and the result of
`Locations.ensure`, on the same storages. -/
theorem run_ensureAlone (storages : Storages σ) (t : LocationCalls) (w : Workspace)
    (spans : List String) (scene : Scene σ) (free : t.writers = 0)
    (turn : t.attemptsAt (t.pathIn w) = 0) :
    let entered := t.locations.enter (t.pathIn w) w.storage
    let create := (storages.create entered.1.storage (t.pathIn w) .temporary).outcome
      entered.2.spans scene
    let probe := (storages.probe entered.1.storage (t.pathIn w)).outcome entered.2.spans create.2
    let done := ((t.locations.ensure storages w) spans scene).1
    ∃ h, t.run storages.uri (.call (.ensure w) :: t.ensureSteps w create.1 probe.1) =
      some (t.beside done.2 (.ensured (t.pathIn w) done.1) h) := by
  intro entered create probe done
  have result : done = _ := Locations.ensure_eq storages t.locations w spans scene
  have unlocked (l : Locations) (h : List Happening) :
      (t.beside l (.asking w) h).writers = 0 := by
    rw [writers_beside]
    simp [free, Stage.excludes]
  suffices goes : Goes storages.uri t (t.ensureSteps w create.1 probe.1) t.locations
      (.asking w) done.2 (.ensured (t.pathIn w) done.1) from goes _
  unfold ensureSteps
  cases closed : t.locations.closed with
  | true =>
    rw [closed, if_pos rfl] at result
    rw [result, if_pos rfl]
    refine Goes.proceed (fun h => ⟨.refused t.stages.length (t.pathIn w), ?_⟩) Goes.returned
    rw [LocationCalls.proceed, if_neg (not_not.mpr (unlocked ..))]
    exact if_pos closed
  | false =>
    rw [closed, if_neg Bool.false_ne_true] at result
    rw [if_neg Bool.false_ne_true]
    have admitted {moves : List Move} {l' : Locations} {stage' : Stage}
        (rest : Goes storages.uri t moves t.locations (.admitted w) l' stage') :
        Goes storages.uri t (.proceed t.stages.length :: moves) t.locations (.asking w) l'
          stage' := by
      refine Goes.proceed (fun h => ⟨.admitted t.stages.length (t.pathIn w), ?_⟩) rest
      rw [LocationCalls.proceed, if_neg (not_not.mpr (unlocked ..))]
      refine if_neg ?_
      show ¬ t.locations.closed = true
      rw [closed]
      exact Bool.false_ne_true
    have named {moves : List Move} {l' : Locations} {stage' : Stage}
        (rest : Goes storages.uri t moves entered.2 (.waiting (t.pathIn w) entered.1.storage) l'
          stage') :
        Goes storages.uri t (.proceed t.stages.length :: moves) t.locations (.admitted w) l'
          stage' :=
      Goes.proceed (fun h => ⟨.named t.stages.length w, rfl⟩) rest
    have ready_iff : entered.2.contains (t.pathIn w) = t.locations.contains (t.pathIn w) :=
      congrFun (Locations.paths_enter ..) _
    have ready_eq : entered.1.ready = entered.2.contains (t.pathIn w) := by
      rw [Locations.contains, Locations.find?_enter, if_pos rfl]
      rfl
    refine admitted (named ?_)
    cases ready : t.locations.contains (t.pathIn w) with
    | true =>
      have found : entered.1.ready = true := by rw [ready_eq, ready_iff, ready]
      have answer : done = (.ok (t.pathIn w), entered.2) := result.trans (if_pos found)
      rw [answer, if_pos rfl]
      refine Goes.proceed (fun h => ⟨.found t.stages.length (t.pathIn w), ?_⟩) Goes.returned
      rw [LocationCalls.proceed]
      exact if_pos (ready_iff.trans ready)
    | false =>
      have missing : ¬ entered.1.ready = true := by
        rw [ready_eq, ready_iff, ready]
        exact Bool.false_ne_true
      rw [if_neg Bool.false_ne_true]
      -- The turn is free, and the attempt answers what `Locations.provision` answers.
      have attempt : ((Locations.provision storages entered.1.storage (t.pathIn w)).outcome
          entered.2.spans scene).1 = Locations.verdict (t.pathIn w)
            (storages.uri entered.1.storage) create.1 probe.1 :=
        Locations.provision_eq storages entered.2.spans scene
      have answer := result.trans (if_neg missing)
      have asked {moves : List Move} {l' : Locations} {stage' : Stage}
          (rest : Goes storages.uri t moves entered.2
            (.creating (t.pathIn w) entered.1.storage) l' stage') :
          Goes storages.uri t (.proceed t.stages.length :: moves) entered.2
            (.waiting (t.pathIn w) entered.1.storage) l' stage' := by
        refine Goes.proceed (fun h =>
          ⟨.createSent t.stages.length entered.1.storage (t.pathIn w), ?_⟩) rest
        rw [LocationCalls.proceed]
        refine (if_neg ?_).trans (if_neg ?_)
        · show ¬ entered.2.contains (t.pathIn w) = true
          rw [ready_iff, ready]
          exact Bool.false_ne_true
        · rw [attemptsAt_beside, turn]
          simp [Stage.attempts]
      have goes := @Goes.attempted storages.uri t entered.2 (t.pathIn w) entered.1.storage
        create.1 probe.1
      rw [← attempt] at goes
      rw [answer]
      exact asked goes

/-- The deletions of a `cleanup` that nobody disturbs, one after the other, with the answers they
get. -/
def deletionSteps (storages : Storages σ) (t : LocationCalls) (spans : List String) :
    List (StoragePath × String) → Scene σ → List Move
  | [], _ => []
  | e :: rest, scene =>
    .send t.stages.length 0 ::
      .delete t.stages.length 0 ((storages.delete e.2 e.1 true).outcome spans scene).1 ::
        deletionSteps storages t spans rest ((Locations.deleteOne storages e.1 e.2) spans scene).2

/-- Deleting one location after the other counts what `Locations.deleteAll` counts. -/
theorem Goes.deleted (storages : Storages σ) {l : Locations} (spans : List String)
    (left : List (StoragePath × String)) (count : Nat) (scene : Scene σ) :
    Goes storages.uri t (deletionSteps storages t spans left scene ++ [.proceed t.stages.length]) l
      (.deleting left [] count) l
      (.cleaned (count + ((Locations.deleteAll storages left) spans scene).1)) := by
  induction left generalizing count scene with
  | nil => exact Goes.proceed (fun _ => ⟨_, rfl⟩) Goes.rest
  | cons e rest ih =>
    have sent (h : List Happening) : ∃ happening,
        (t.beside l (.deleting (e :: rest) [] count) h).step storages.uri
            (.send t.stages.length 0) =
          some ((t.beside l (.deleting (e :: rest) [] count) h).put t.stages.length
            (.deleting rest [e] count) happening l) := by
      refine ⟨.deleteSent t.stages.length e.2 e.1 true, ?_⟩
      simp only [step, stage_beside]
      rfl
    have answered (answer : Except Error Bool) (h : List Happening) : ∃ happening,
        (t.beside l (.deleting rest [e] count) h).step storages.uri
            (.delete t.stages.length 0 answer) =
          some ((t.beside l (.deleting rest [e] count) h).put t.stages.length
            (.deleting rest [] (count + (affirms answer).toNat)) happening l) := by
      refine ⟨.deleteAnswered t.stages.length e.2 e.1 answer, ?_⟩
      simp only [step, stage_beside]
      rfl
    rw [Locations.deleteAll_cons, ← Nat.add_assoc]
    exact Goes.cons sent (Goes.cons (answered _) (ih _ _))

/-- **A `cleanup` that nobody disturbs** ends with the locations and the count of
`Locations.cleanup`, on the same storages. -/
theorem run_cleanupAlone (storages : Storages σ) (t : LocationCalls) (spans : List String)
    (scene : Scene σ) (unshared : t.readers = 0) (free : t.writers = 0) :
    let done := ((t.locations.cleanup storages) spans scene).1
    ∃ h, t.run storages.uri (.call .cleanup :: .proceed t.stages.length ::
        (deletionSteps storages t t.locations.spans t.locations.drain.1 scene ++
          [.proceed t.stages.length])) =
      some (t.beside done.2 (.cleaned done.1) h) := by
  intro done
  have result : done = _ := Locations.cleanup_eq storages t.locations spans scene
  suffices goes : Goes storages.uri t (.proceed t.stages.length ::
      (deletionSteps storages t t.locations.spans t.locations.drain.1 scene ++
        [.proceed t.stages.length])) t.locations .closing done.2 (.cleaned done.1) from goes _
  have deleted := Goes.deleted (t := t) storages (l := t.locations.drain.2) t.locations.spans
    t.locations.drain.1 0 scene
  rw [Nat.zero_add] at deleted
  rw [result]
  refine Goes.proceed (fun h => ⟨.locked t.stages.length, ?_⟩) deleted
  rw [LocationCalls.proceed]
  refine if_neg ?_
  rw [readers_beside, writers_beside, unshared, free]
  simp [Stage.shares, Stage.excludes]

end LocationCalls

end QuerySession
