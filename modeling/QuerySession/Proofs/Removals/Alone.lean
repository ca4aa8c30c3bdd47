import QuerySession.Proofs.Registrations.Step
import QuerySession.Session.Removals

/-!
# One removal at a time

`Session.removeTable` is a removal of a machine that nobody else uses.  Here a removal of the
machine of `Removals` is followed from its beginning to its end, with the answer that the workspace
gives, while all other calls stand still; it ends with the session and the result of the operation
(`run_removeAlone`).
-/

namespace QuerySession.Removals

variable {uri : String → String}

/-- The session after one more removal, which has come as far as `removal`. -/
def beside (o : Removals) (removal : Removal) (h : List Happening) (tables : Tables) : Removals :=
  ⟨{ o.registrations with tables }, o.removals ++ [removal], h⟩

theorem removal_beside (o : Removals) (removal : Removal) (h : List Happening) (tables : Tables) :
    (o.beside removal h tables).removals[o.removals.length]? = some removal :=
  List.getElem?_concat_length

theorem put_beside (o : Removals) (old new : Removal) (h : List Happening) (happening : Happening)
    (tables tables' : Tables) :
    (o.beside old h tables).put o.removals.length new happening tables' =
      o.beside new (h ++ [happening]) tables' := by
  simp [beside, put]

section Steps

variable (uri) (o : Removals) (w : Workspace) (name tableAlias : String) (h : List Happening)
  (tables : Tables)

/-- The last removal looks up a name that has no alias. -/
theorem look_of_unknown {name : String} (unknown : tables.resolve? name = none) :
    (o.beside (.called w name) h tables).step uri (.look o.removals.length) =
      some (o.beside (.removed name (.ok ())) (h ++ [.missed o.removals.length name]) tables) := by
  rw [step, removal_beside, ← put_beside o (.called w name) _ _ _ tables]
  simp only [beside, unknown]

/-- The last removal looks up a name that has an alias. -/
theorem look_of_known {name tableAlias : String} (known : tables.resolve? name = some tableAlias) :
    (o.beside (.called w name) h tables).step uri (.look o.removals.length) =
      some (o.beside (.dropping w name tableAlias)
        (h ++ [.dropSent o.removals.length w.key name tableAlias]) tables) := by
  rw [step, removal_beside, ← put_beside o (.called w name) _ _ _ tables]
  simp only [beside, known]

/-- The last removal hears that its table could not be dropped. -/
theorem answer_error (e : Error) :
    (o.beside (.dropping w name tableAlias) h tables).step uri
        (.answer o.removals.length (.error e)) =
      some (o.beside (.removed name (.error e))
        (h ++ [.dropAnswered o.removals.length w.key tableAlias (.error e)]) tables) := by
  rw [step, removal_beside, ← put_beside o (.dropping w name tableAlias) _ _ _ tables]
  rfl

/-- The last removal hears that its table was dropped. -/
theorem answer_ok :
    (o.beside (.dropping w name tableAlias) h tables).step uri
        (.answer o.removals.length (.ok ())) =
      some (o.beside (.dropped w name tableAlias)
        (h ++ [.dropAnswered o.removals.length w.key tableAlias (.ok ())]) tables) := by
  rw [step, removal_beside, ← put_beside o (.dropping w name tableAlias) _ _ _ tables]
  rfl

/-- The last removal forgets its name. -/
theorem forget_beside :
    (o.beside (.dropped w name tableAlias) h tables).step uri (.forget o.removals.length) =
      some (o.beside (.removed name (.ok ()))
        (h ++ [.forgot o.removals.length name (tables.resolve? name)]) (tables.remove name).2) := by
  rw [step, removal_beside, ← put_beside o (.dropped w name tableAlias) _ _ _ tables]
  rfl

end Steps

variable {σ : Type} (workspaces : Workspaces σ) (s : Session)

/-- **A removal that nobody disturbs** ends with the session and the result of
`Session.removeTable`, on the same workspaces. -/
theorem run_removeAlone (o : Removals) (w : Workspace) (name : String) (spans : List String)
    (scene : Scene σ) :
    let done := (((o.registrations.onto s).removeTable workspaces w name) spans scene).1
    ∃ moves p, o.run uri (.remove w name :: moves) = some p ∧ p.registrations.onto s = done.2 ∧
      p.removals = o.removals ++ [.removed name done.1] := by
  intro done
  have called : o.step uri (.remove w name) =
      some (o.beside (.called w name) o.history o.registrations.tables) := rfl
  cases looked : o.registrations.tables.resolve? name with
  | none =>
    have result : done = (.ok (), o.registrations.onto s) :=
      congrArg (fun x : Action σ _ => (x spans scene).1)
        ((o.registrations.onto s).removeTable_of_unknown workspaces w looked)
    have look := look_of_unknown uri o w o.history o.registrations.tables looked
    rw [result]
    exact ⟨_, _, Schedule.cons called (Schedule.cons look List.foldlM_nil), rfl, rfl⟩
  | some tableAlias =>
    have result : done = _ :=
      (o.registrations.onto s).removeTable_of_known workspaces w looked spans scene
    have look := look_of_known uri o w o.history o.registrations.tables looked
    cases answered : ((workspaces.drop w.key tableAlias).outcome (o.registrations.onto s).spans
      scene).1 with
    | error e =>
      have answer (h) := answer_error uri o w name tableAlias h o.registrations.tables e
      rw [result, answered]
      have told (h) := Schedule.cons (answer h) List.foldlM_nil
      exact ⟨_, _, Schedule.cons called (Schedule.cons look (told _)), rfl, rfl⟩
    | ok _ =>
      have answer (h) := answer_ok uri o w name tableAlias h o.registrations.tables
      have forget (h) := forget_beside uri o w name tableAlias h o.registrations.tables
      rw [result, answered]
      have told (h) := Schedule.cons (answer h) (Schedule.cons (forget _) List.foldlM_nil)
      exact ⟨_, _, Schedule.cons called (Schedule.cons look (told _)), rfl, rfl⟩

end QuerySession.Removals
