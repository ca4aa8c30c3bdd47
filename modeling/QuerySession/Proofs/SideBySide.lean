import Mathlib.Data.List.Forall2
import QuerySession.Proofs.Action
import QuerySession.Session.Inquiries

/-!
# Two runs side by side

Two runs of actions, of which nobody but the outside can tell which is which.  What may differ is
given beforehand: how the outside stands in the one and in the other, and one stretch of events that
somebody outside reports.  The runs are compared step by step, as they are made of the same steps.

## Main Definitions

* `Tolerance` — what may differ
* `Scene.Alike`, `Action.Alike`, `Attempt.Alike` — scenes and runs that differ in nothing else
* `Services.Respect` — storages, workspaces and context providers that do not tell

## Main Results

* `Action.Alike.bind`, `Attempt.Alike.bind` — runs are alike step by step
* `Locations.ensure_alike`, `Locations.cleanup_alike` — locations do not tell if the storages do not
-/

namespace QuerySession

variable {σ α β γ δ : Type}

/-- What may differ between two runs. -/
structure Tolerance (σ : Type) where
  /-- Which states of the outside go for the same. -/
  outside : σ → σ → Prop
  /-- What somebody outside reports in the first run. -/
  told : List Event
  /-- What is reported instead in the second run. -/
  told' : List Event

/-- No difference is tolerated. -/
def Tolerance.none : Tolerance σ := ⟨Eq, [], []⟩

variable {t : Tolerance σ}

/-- Two scenes that differ in nothing else. -/
structure Scene.Alike (t : Tolerance σ) (a b : Scene σ) : Prop where
  outside : t.outside a.outside b.outside
  /-- The stretch of events that may differ stands at the same place, if it is there at all. -/
  events : a.events = b.events ∨ ∃ before after,
    a.events = before ++ t.told ++ after ∧ b.events = before ++ t.told' ++ after

/-- Scenes stay alike when the same is reported in both. -/
theorem Scene.Alike.report {a b : Scene σ} (alike : Scene.Alike t a b) (e : Event) :
    Scene.Alike t { a with events := a.events ++ [e] } { b with events := b.events ++ [e] } where
  outside := alike.outside
  events := by
    rcases alike.events with same | ⟨before, after, first, second⟩
    · exact .inl (congrArg (· ++ [e]) same)
    · refine .inr ⟨before, after ++ [e], ?_, ?_⟩
      · rw [← List.append_assoc, ← first]
      · rw [← List.append_assoc, ← second]

/-- The events are the same if nobody tells a difference. -/
theorem Scene.Alike.events_eq {a b : Scene σ} (alike : Scene.Alike t a b)
    (same : t.told = t.told') : a.events = b.events := by
  rcases alike.events with same' | ⟨before, after, first, second⟩
  · exact same'
  · rw [first, second, same]

/-- Scenes that differ in nothing are the same. -/
theorem Scene.alike_none_iff {a b : Scene σ} : Scene.Alike .none a b ↔ a = b := by
  constructor
  · intro alike
    obtain ⟨outside, events⟩ := a
    obtain rfl := alike.outside
    obtain rfl := alike.events_eq rfl
    rfl
  · rintro rfl
    exact ⟨rfl, .inl rfl⟩

/-! ## Actions -/

/-- Two outcomes that nobody can tell apart, but for what `Q` says of the answers. -/
def Action.AlikeAt (t : Tolerance σ) (Q : α → β → Prop) (x : α × Scene σ) (y : β × Scene σ) :
    Prop := Q x.1 y.1 ∧ Scene.Alike t x.2 y.2

/-- Two actions whose outcomes nobody can tell apart, whenever the scenes were alike before. -/
def Action.Alike (t : Tolerance σ) (Q : α → β → Prop) (x : Action σ α) (y : Action σ β) : Prop :=
  ∀ spans a b, Scene.Alike t a b → AlikeAt t Q (x spans a) (y spans b)

/-- An action that does not tell. -/
abbrev Action.Discreet (t : Tolerance σ) (x : Action σ α) : Prop := Action.Alike t Eq x x

namespace Action.Alike

variable {Q : α → β → Prop} {P : γ → δ → Prop} {x : Action σ α} {y : Action σ β}

theorem pure {a : α} {b : β} (h : Q a b) : Action.Alike t Q (Pure.pure a) (Pure.pure b) :=
  fun _ _ _ alike => ⟨h, alike⟩

/-- One step after another. -/
theorem bind {f : α → Action σ γ} {g : β → Action σ δ} (first : Action.Alike t Q x y)
    (second : ∀ a b, Q a b → Action.Alike t P (f a) (g b)) :
    Action.Alike t P (x >>= f) (y >>= g) := by
  intro spans a b alike
  obtain ⟨answers, scenes⟩ := first spans a b alike
  show AlikeAt t P ((x >>= f) spans a) ((y >>= g) spans b)
  rw [Action.bind_eq, Action.bind_eq]
  exact second _ _ answers spans _ _ scenes

/-- One step after another, when both runs get the same answer from the first. -/
theorem bind_same {x : Action σ α} {f : α → Action σ γ} {g : α → Action σ δ}
    (first : Action.Discreet t x) (second : ∀ a, Action.Alike t P (f a) (g a)) :
    Action.Alike t P (x >>= f) (x >>= g) := by
  apply first.bind
  rintro a _ rfl
  exact second a

/-- The same is reported in both. -/
theorem emit (level : Level) (message : String) (fields : List (String × String)) :
    Action.Discreet t (emit level message fields) :=
  fun spans _ _ alike => ⟨rfl, alike.report ⟨level, message, fields, spans⟩⟩

theorem within (alike : Action.Alike t Q x y) (spans : List String) :
    Action.Alike t Q (within spans x) (within spans y) := fun _ a b => alike spans a b

/-- Changes of the outside that keep what goes for the same. -/
theorem consult {f : σ → σ} (keeps : ∀ a b, t.outside a b → t.outside (f a) (f b)) {a : α} {b : β}
    (h : Q a b) : Action.Alike t Q (consult fun outside => (a, f outside))
      (QuerySession.consult fun outside => (b, f outside)) :=
  fun _ _ _ alike => ⟨h, keeps _ _ alike.outside, alike.events⟩

/-- What is done for each member of a list. -/
theorem forM {ι : Type} {f : ι → Action σ Unit} (each : ∀ i, Action.Discreet t (f i)) (l : List ι) :
    Action.Discreet t (l.forM f) := by
  induction l with
  | nil => exact .pure rfl
  | cons i l ih => exact (each i).bind_same fun _ => ih

end Action.Alike

/-! ## Attempts -/

/-- Two results that are errors together, and then the same one. -/
inductive Results (Q : α → β → Prop) : Except Error α → Except Error β → Prop
  | ok {a : α} {b : β} (h : Q a b) : Results Q (.ok a) (.ok b)
  | error (e : Error) : Results Q (.error e) (.error e)

theorem Results.of_eq {r r' : Except Error α} (same : r = r') : Results Eq r r' := by
  subst same
  rcases r with e | a
  · exact .error e
  · exact .ok rfl

/-- Results that differ in nothing are the same. -/
theorem Results.eq {r r' : Except Error α} (h : Results Eq r r') : r = r' := by
  rcases h with ⟨rfl⟩ | e
  · rfl
  · rfl

/-- Two attempts whose outcomes nobody can tell apart. -/
def Attempt.Alike (t : Tolerance σ) (Q : α → β → Prop) (x : Attempt σ α) (y : Attempt σ β) : Prop :=
  Action.Alike t (Results Q) x.outcome y.outcome

/-- An attempt that does not tell. -/
abbrev Attempt.Discreet (t : Tolerance σ) (x : Attempt σ α) : Prop := Attempt.Alike t Eq x x

namespace Attempt.Alike

variable {Q : α → β → Prop} {P : γ → δ → Prop} {x : Attempt σ α} {y : Attempt σ β}

theorem ofExcept {r : Except Error α} {r' : Except Error β} (h : Results Q r r') :
    Attempt.Alike t Q (.ofExcept r) (.ofExcept r') := Action.Alike.pure h

theorem pure {a : α} {b : β} (h : Q a b) : Attempt.Alike t Q (Pure.pure a) (Pure.pure b) :=
  Action.Alike.pure (.ok h)

theorem lift {x : Action σ α} {y : Action σ β} (alike : Action.Alike t Q x y) :
    Attempt.Alike t Q (ExceptT.lift x) (ExceptT.lift y) := by
  intro spans a b scenes
  obtain ⟨answers, after⟩ := alike spans a b scenes
  exact ⟨.ok answers, after⟩

theorem emit (level : Level) (message : String) (fields : List (String × String)) :
    Attempt.Discreet t (.emit level message fields) := lift (.emit level message fields)

theorem within (alike : Attempt.Alike t Q x y) (spans : List String) :
    Attempt.Alike t Q (within spans x) (within spans y) := Action.Alike.within alike spans

/-- One step after another, as long as the outcomes of the first are alike. -/
theorem bindAt {f : α → Attempt σ γ} {g : β → Attempt σ δ} {spans : List String} {a b : Scene σ}
    (first : Action.AlikeAt t (Results Q) (x.outcome spans a) (y.outcome spans b))
    (second : ∀ a b, Q a b → Attempt.Alike t P (f a) (g b)) :
    Action.AlikeAt t (Results P) ((x >>= f).outcome spans a) ((y >>= g).outcome spans b) := by
  rw [Attempt.bind_eq, Attempt.bind_eq]
  obtain ⟨answers, scenes⟩ := first
  rcases left : x.outcome spans a with ⟨r, a'⟩
  rcases right : y.outcome spans b with ⟨r', b'⟩
  rw [left, right] at answers scenes
  rcases answers with h | e
  · exact second _ _ h spans a' b' scenes
  · exact ⟨.error e, scenes⟩

/-- One step after another. -/
theorem bind {f : α → Attempt σ γ} {g : β → Attempt σ δ} (first : Attempt.Alike t Q x y)
    (second : ∀ a b, Q a b → Attempt.Alike t P (f a) (g b)) :
    Attempt.Alike t P (x >>= f) (y >>= g) :=
  fun spans a b alike => bindAt (first spans a b alike) second

/-- One step after another, when both runs get the same answer from the first. -/
theorem bind_same {x : Attempt σ α} {f : α → Attempt σ γ} {g : α → Attempt σ δ}
    (first : Attempt.Discreet t x) (second : ∀ a, Attempt.Alike t P (f a) (g a)) :
    Attempt.Alike t P (x >>= f) (x >>= g) := by
  apply first.bind
  rintro a _ rfl
  exact second a

/-- The outcome of an attempt that does not tell is the same in both runs. -/
theorem outcome {x : Attempt σ α} (discreet : Attempt.Discreet t x) :
    Action.Discreet t x.outcome :=
  fun spans a b alike => ⟨(discreet spans a b alike).1.eq, (discreet spans a b alike).2⟩

/-- An attempt does not tell if its outcome is the same in both runs. -/
theorem of_outcome {x : Attempt σ α} (discreet : Action.Discreet t x.outcome) :
    Attempt.Discreet t x := by
  intro spans a b alike
  obtain ⟨answers, scenes⟩ := discreet spans a b alike
  exact ⟨Results.of_eq answers, scenes⟩

end Attempt.Alike

/-! ## Services that do not tell -/

/-- Whom a session asks does not tell a difference that is tolerated.  The authenticator is not
among them. -/
structure Services.Respect (outside : Services σ) (t : Tolerance σ) : Prop where
  probe : ∀ storage path, Attempt.Discreet t (outside.storages.probe storage path)
  create : ∀ storage path strategy,
    Attempt.Discreet t (outside.storages.create storage path strategy)
  delete : ∀ storage path recursive,
    Attempt.Discreet t (outside.storages.delete storage path recursive)
  kindOf : ∀ key name, Attempt.Discreet t (outside.workspaces.kindOf key name)
  drop : ∀ key name, Attempt.Discreet t (outside.workspaces.drop key name)
  load : ∀ p attributes id, Action.Discreet t (outside.providers.load p attributes id)

/-- Nobody tells when there is no difference. -/
theorem Services.respect_none (outside : Services σ) : outside.Respect .none := by
  have action {α : Type} (x : Action σ α) : Action.Discreet .none x := by
    intro spans a b alike
    obtain rfl := Scene.alike_none_iff.mp alike
    exact ⟨rfl, Scene.alike_none_iff.mpr rfl⟩
  have attempt {α : Type} (x : Attempt σ α) : Attempt.Discreet .none x :=
    .of_outcome (action x.outcome)
  exact ⟨fun _ _ => attempt _, fun _ _ _ => attempt _, fun _ _ _ => attempt _, fun _ _ => attempt _,
    fun _ _ => attempt _, fun _ _ _ => action _⟩

/-! ## Locations -/

namespace Locations

/-- An attempt whose error is put in other words does not tell if it did not before. -/
theorem blaming_alike {x : Attempt σ α} (discreet : Attempt.Discreet t x) (path : StoragePath)
    (uri : String) : Attempt.Discreet t (blaming path uri x) := by
  apply Attempt.Alike.of_outcome
  apply discreet.outcome.bind_same
  rintro (e | a) <;> exact .pure rfl

variable {outside : Services σ} (respect : outside.Respect t)
include respect

theorem provision_alike (storage : String) (path : StoragePath) :
    Attempt.Discreet t (provision outside.storages storage path) := by
  unfold provision
  apply (blaming_alike (respect.create _ _ _) _ _).bind_same
  intro _
  apply (blaming_alike (respect.probe _ _) _ _).bind_same
  rintro (_ | _)
  · exact .ofExcept (.error _)
  · exact .emit _ _ _

/-- Making sure of a location does not tell. -/
theorem ensure_alike (l : Locations) (w : Workspace) :
    Action.Discreet t (l.ensure outside.storages w) := by
  simp only [ensure]
  split
  · exact .pure rfl
  · split
    · exact .pure rfl
    · apply ((provision_alike respect _ _).outcome.within _).bind_same
      rintro (e | _) <;> exact .pure rfl

theorem deleteOne_alike (path : StoragePath) (storage : String) :
    Action.Discreet t (deleteOne outside.storages path storage) := by
  unfold deleteOne
  apply (respect.delete _ _ _).outcome.bind_same
  rintro (e | deleted) <;> exact (Action.Alike.emit _ _ _).bind_same fun _ => .pure rfl

theorem deleteAll_alike (ready : List (StoragePath × String)) :
    Action.Discreet t (deleteAll outside.storages ready) := by
  induction ready with
  | nil => exact .pure rfl
  | cons location rest ih =>
    exact (deleteOne_alike respect _ _).bind_same fun _ => ih.bind_same fun _ => .pure rfl

/-- Deleting the locations does not tell. -/
theorem cleanup_alike (l : Locations) : Action.Discreet t (l.cleanup outside.storages) :=
  ((deleteAll_alike respect _).within _).bind_same fun _ => .pure rfl

end Locations

end QuerySession
