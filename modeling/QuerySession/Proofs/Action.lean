import QuerySession.Action

/-!
# One action after another

What a sequence of actions answers and leaves, by what each of them does.
-/

namespace QuerySession

variable {σ : Type}

/-- A sequence of results is there when all of them are. -/
theorem bind_eq_ok_iff {ε α β : Type} {x : Except ε α} {f : α → Except ε β} {b : β} :
    (x >>= f) = .ok b ↔ ∃ a, x = .ok a ∧ f a = .ok b := by
  cases x <;> simp [bind, Except.bind]

/-- One action after another. -/
theorem Action.bind_eq {α β : Type} (x : Action σ α) (f : α → Action σ β) (spans : List String)
    (scene : Scene σ) :
    (x >>= f) spans scene = f (x spans scene).1 spans (x spans scene).2 := rfl

/-- The outside is used and replaced. -/
theorem Action.consult_eq {α : Type} (f : σ → α × σ) (spans : List String) (scene : Scene σ) :
    (consult f) spans scene =
      ((f scene.outside).1, { scene with outside := (f scene.outside).2 }) := rfl

/-- An action that runs in spans of its own. -/
theorem Action.within_eq {α : Type} (inner : List String) (x : Action σ α) (spans : List String)
    (scene : Scene σ) : (within inner x) spans scene = x inner scene := rfl

namespace Attempt

variable {α β : Type} {x : Attempt σ α} {f : α → Attempt σ β} {spans : List String}
  {scene after : Scene σ}

/-- One attempt after another: the second is made only if the first succeeds. -/
theorem bind_eq (x : Attempt σ α) (f : α → Attempt σ β) (spans : List String) (scene : Scene σ) :
    (x >>= f).outcome spans scene =
      match x.outcome spans scene with
      | (.ok a, after) => (f a).outcome spans after
      | (.error e, after) => (.error e, after) := by
  unfold outcome
  rw [ExceptT.run_bind, Action.bind_eq]
  cases x.run spans scene with
  | mk result after => cases result <;> rfl

/-- A sequence of attempts that succeeds is one of attempts that succeed. -/
theorem bind_ok {b : β} (h : (x >>= f).outcome spans scene = (.ok b, after)) :
    ∃ a mid, x.outcome spans scene = (.ok a, mid) ∧ (f a).outcome spans mid = (.ok b, after) := by
  rw [bind_eq] at h
  split at h
  · rename_i a mid first
    exact ⟨a, mid, first, h⟩
  · cases h

/-- An attempt in spans of its own. -/
theorem within_eq (inner : List String) (x : Attempt σ α) (spans : List String) (scene : Scene σ) :
    (within inner x).outcome spans scene = x.outcome inner scene := rfl

/-- An action that cannot fail succeeds as an attempt. -/
theorem lift_eq (x : Action σ α) (spans : List String) (scene : Scene σ) :
    Attempt.outcome (ExceptT.lift x) spans scene =
      (.ok (x spans scene).1, (x spans scene).2) := rfl

/-- A result that needs nothing from the outside. -/
theorem ofExcept_eq (result : Except Error α) (spans : List String) (scene : Scene σ) :
    (ofExcept result).outcome spans scene = (result, scene) := rfl

/-- The outside is used and replaced. -/
theorem consult_eq (f : σ → Except Error α × σ) (spans : List String) (scene : Scene σ) :
    (consult f).outcome spans scene =
      ((f scene.outside).1, { scene with outside := (f scene.outside).2 }) := rfl

/-- An attempt that only returns a value returns it. -/
theorem pure_eq (a : α) (spans : List String) (scene : Scene σ) :
    Attempt.outcome (pure a) spans scene = (.ok a, scene) := rfl

end Attempt

/-! ### Actions that only report -/

/-- All that an action does is to report `events`: it answers `a` whatever the outside is, and leaves
the outside alone. -/
def Action.Reports {α : Type} (x : ∀ σ, Action σ α) (spans : List String) (a : α)
    (events : List Event) : Prop :=
  ∀ (σ : Type) (scene : Scene σ), x σ spans scene = (a, ⟨scene.outside, scene.events ++ events⟩)

/-- The same of an attempt. -/
def Attempt.Reports {α : Type} (x : ∀ σ, Attempt σ α) (spans : List String) (result : Except Error α)
    (events : List Event) : Prop :=
  Action.Reports (fun σ => (x σ).outcome) spans result events

namespace Action.Reports

variable {α β : Type} {spans : List String} {a : α} {b : β} {events later : List Event}

theorem pure (a : α) (spans : List String) : Reports (fun _ => pure a) spans a [] :=
  fun σ scene => by rw [List.append_nil]; rfl

theorem emit (level : Level) (message : String) (fields : List (String × String))
    (spans : List String) :
    Reports (fun _ => QuerySession.emit level message fields) spans ()
      [⟨level, message, fields, spans⟩] := fun _ _ => rfl

theorem within {inner : List String} {x : ∀ σ, Action σ α} (h : Reports x inner a events) :
    Reports (fun σ => QuerySession.within inner (x σ)) spans a events := h

theorem bind {x : ∀ σ, Action σ α} {f : ∀ σ, α → Action σ β} (first : Reports x spans a events)
    (second : Reports (fun σ => f σ a) spans b later) :
    Reports (fun σ => x σ >>= f σ) spans b (events ++ later) := by
  intro σ scene
  show (x σ >>= f σ) spans scene = _
  rw [Action.bind_eq, first σ scene, ← List.append_assoc]
  exact second σ _

/-- One report for each member of a list. -/
theorem forM {ι : Type} {f : ∀ σ, ι → Action σ Unit} (l : List ι)
    (each : ∀ i, ∃ events, Reports (fun σ => f σ i) spans () events) :
    ∃ events, Reports (fun σ => l.forM (f σ)) spans () events := by
  induction l with
  | nil => exact ⟨[], .pure () spans⟩
  | cons i l ih =>
    obtain ⟨events, first⟩ := each i
    obtain ⟨later, rest⟩ := ih
    exact ⟨events ++ later, first.bind rest⟩

end Action.Reports

namespace Attempt.Reports

variable {α β : Type} {spans : List String} {a : α} {result : Except Error β} {e : Error}
  {events later : List Event} {x : ∀ σ, Attempt σ α} {f : ∀ σ, α → Attempt σ β}

theorem pure (a : α) (spans : List String) :
    Attempt.Reports (fun _ => Pure.pure a) spans (.ok a) [] := Action.Reports.pure _ _

theorem ofExcept (result : Except Error α) (spans : List String) :
    Attempt.Reports (fun _ => Attempt.ofExcept result) spans result [] := Action.Reports.pure _ _

theorem emit (level : Level) (message : String) (fields : List (String × String))
    (spans : List String) :
    Attempt.Reports (fun _ => Attempt.emit level message fields) spans (.ok ())
      [⟨level, message, fields, spans⟩] := fun _ _ => rfl

/-- What cannot fail succeeds as an attempt. -/
theorem lift {x : ∀ σ, Action σ α} (h : Action.Reports x spans a events) :
    Attempt.Reports (fun σ => ExceptT.lift (x σ)) spans (.ok a) events := by
  intro σ scene
  show Attempt.outcome (ExceptT.lift (x σ)) spans scene = _
  rw [Attempt.lift_eq, h σ scene]

theorem within {inner : List String} {result : Except Error α} (h : Reports x inner result events) :
    Attempt.Reports (fun σ => QuerySession.within inner (x σ)) spans result events := h

/-- One attempt after another, when the first succeeds. -/
theorem bind (first : Reports x spans (.ok a) events)
    (second : Reports (fun σ => f σ a) spans result later) :
    Reports (fun σ => x σ >>= f σ) spans result (events ++ later) := by
  intro σ scene
  have one : (x σ).outcome spans scene = _ := first σ scene
  show (x σ >>= f σ).outcome spans scene = _
  rw [Attempt.bind_eq, one, ← List.append_assoc]
  exact second σ _

/-- One attempt after another, when the first fails. -/
theorem bind_error (first : Reports x spans (.error e) events) :
    Reports (fun σ => x σ >>= f σ) spans (.error e) events := by
  intro σ scene
  have one : (x σ).outcome spans scene = _ := first σ scene
  show (x σ >>= f σ).outcome spans scene = _
  rw [Attempt.bind_eq, one]

end Attempt.Reports

end QuerySession
