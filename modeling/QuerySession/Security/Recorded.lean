import QuerySession.Security.Provider

/-!
# Providers that are watched

Providers that do what others do, and keep a record of their calls beside the outside: which call it
was, with what it was given, and what it answered.

## Main Definitions

* `ProviderUse` — one call, with its answer
* `Watched` — the outside with the record so far
* `Providers.watched` — the providers that keep the record

## Main Results

* `Watched.noting_eq` — watching a call changes nothing but the record
-/

namespace QuerySession

/-- A call of a provider with its answer. -/
inductive ProviderUse where
  | construct (factory : Factory) (made : ProviderId)
  | setup (p : ProviderId) (settings : Settings) (answer : Except Error Unit)
  | close (p : ProviderId) (answer : Except Error Unit)
  | authenticate (p : ProviderId) (user password : String)
      (answer : Except Error (List OptionValue))
  /-- The attributes are those that were given; `left` is what the provider made of them. -/
  | load (p : ProviderId) (attributes : List OptionValue) (sessionId : String)
      (answer : Except Error Unit) (left : List OptionValue)

/-- The outside with the calls of providers so far, oldest first. -/
structure Watched (σ : Type) where
  outside : σ
  uses : List ProviderUse

namespace Watched

variable {σ α : Type}

/-- Make a call, and put it on record. -/
def noting (x : Action σ α) (use : α → ProviderUse) : Action (Watched σ) α := do
  let answer ← focus outside (fun outside w => { w with outside }) x
  consult fun w => (answer, { w with uses := w.uses ++ [use answer] })

/-- The scene of a watched outside before anything is on record. -/
def open_ (scene : Scene σ) : Scene (Watched σ) := ⟨⟨scene.outside, []⟩, scene.events⟩

/-- The scene without the record. -/
def forget (scene : Scene (Watched σ)) : Scene σ := ⟨scene.outside.outside, scene.events⟩

/-- Whoever watches a call sees what it answers and leaves, and puts it on record. -/
theorem noting_eq {x : Action σ α} {use : α → ProviderUse} {spans : List String}
    {scene : Scene (Watched σ)} {answer : α} {after : Scene σ}
    (answered : x spans (forget scene) = (answer, after)) :
    (noting x use) spans scene =
      (answer, ⟨⟨after.outside, scene.outside.uses ++ [use answer]⟩, after.events⟩) := by
  have done : (noting x use) spans scene =
      (fun result : α × Scene σ => (result.1, (⟨⟨result.2.outside, scene.outside.uses ++
        [use result.1]⟩, result.2.events⟩ : Scene (Watched σ))))
        (x spans (forget scene)) := rfl
  rw [done, answered]

end Watched

/-- The same providers, with their calls put on record. -/
def Providers.watched {σ : Type} (providers : Providers σ) : Providers (Watched σ) where
  construct factory := Watched.noting (providers.construct factory) (.construct factory)
  setup p settings :=
    ExceptT.mk (Watched.noting (providers.setup p settings).run (.setup p settings))
  close p := ExceptT.mk (Watched.noting (providers.close p).run (.close p))
  authenticate p user password :=
    ExceptT.mk (Watched.noting (providers.authenticate p user password).run
      (.authenticate p user password))
  load p attributes sessionId :=
    Watched.noting (providers.load p attributes sessionId) fun (answer, left) =>
      .load p attributes sessionId answer left

end QuerySession
