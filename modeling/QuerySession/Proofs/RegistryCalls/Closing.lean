import QuerySession.Proofs.RegistryCalls.Story

/-!
# Calls that close

A call that closes the providers comes to the authenticator first, and to the context provider when
this has answered.  It looks whether there is one when it comes there, so that it may close more than
there was when it was called.  It never closes less, and nothing that was not set up.
-/

namespace QuerySession.RegistryCalls

variable {offered : ExtensionKind → List Candidate} {t : RegistryCalls} {i : Nat}
  {kind : ExtensionKind}
  {p : ProviderId}

/-- What a call that closed the providers did.  It was called when `before` had happened. -/
structure Closes (i : Nat) (before after : List Happening)
    (first second : Option (ProviderId × Except Error Unit)) : Prop where
  /-- It went through both kinds, whatever the first provider answered, and did nothing else. -/
  through : own i (before ++ .called i .close :: after) = .called i .close ::
    release i .authenticator first ++ release i .contextHandler second
  /-- It closed the authenticator if there was one when it was called, and this one. -/
  first_closed : ∀ p ∈ ready .authenticator before, ∃ answer, first = some (p, answer)
  second_closed : ∀ p ∈ ready .contextHandler before, ∃ answer, second = some (p, answer)
  /-- It closed what was set up, and nothing else. -/
  first_ready : ∀ p answer, first = some (p, answer) →
    p ∈ ready .authenticator (before ++ .called i .close :: after)
  second_ready : ∀ p answer, second = some (p, answer) →
    p ∈ ready .contextHandler (before ++ .called i .close :: after)

section Release

variable {done : Option (ProviderId × Except Error Unit)}

/-- A call closes what was set up. -/
theorem Reached.ready_of_release (h : Reached offered t)
    (seen : release i kind done ⊆ t.history) {answer : Except Error Unit}
    (closed : done = some (p, answer)) : p ∈ ready kind t.history := by
  subst closed
  exact h.ready_of_met (seen (List.mem_cons_self ..)) (.inr rfl)

/-- A call closes what was set up before it was called. -/
theorem Reached.released_of_ready (h : Reached offered t) (seen : release i kind done ⊆ t.history)
    {before after : List Happening} (split : t.history = before ++ .called i .close :: after)
    (there : p ∈ ready kind before) : ∃ answer, done = some (p, answer) := by
  cases done with
  | some closed =>
    obtain ⟨q, answer⟩ := closed
    have still : p ∈ ready kind t.history := split ▸ mem_ready_append there _
    cases h.ready_unique still (h.ready_of_release seen rfl)
    exact ⟨answer, rfl⟩
  | none =>
    -- It passed by after it was called, when the provider was there.
    have passed : .passed i kind ∈ t.history := seen (List.mem_singleton_self _)
    have unseen : own i before = [] := h.grounded before _ after split
    have since : .passed i kind ∈ after := by
      rw [split] at passed
      rcases List.mem_append.mp passed with earlier | later
      · have mine : Happening.passed i kind ∈ own i before :=
          List.mem_filter.mpr ⟨earlier, decide_eq_true rfl⟩
        rw [unseen] at mine
        cases mine
      · rcases List.mem_cons.mp later with this | later
        · cases this
        · exact later
    obtain ⟨between, rest, rfl⟩ := List.append_of_mem since
    have nothing : ready kind (before ++ .called i .close :: between) = [] :=
      h.grounded _ (.passed i kind) rest (by simp [split])
    have something := mem_ready_append there (.called i .close :: between)
    rw [nothing] at something
    cases something

end Release

/-- **A call that closed the providers closed them all.** -/
theorem Reached.closes (h : Reached offered t) (done : t.stages[i]? = some .closed) :
    ∃ before after first second, t.history = before ++ .called i .close :: after ∧
      Closes i before after first second := by
  have story := h.story done
  generalize seen : own i t.history = mine at story
  cases story with
  | closed first second =>
    have mem {e : Happening} (mem : e ∈ release i .authenticator first ++
        release i .contextHandler second) : e ∈ t.history := by
      apply @mem_of_mem_own i
      rw [seen]
      exact List.mem_cons_of_mem _ mem
    have seenFirst : release i .authenticator first ⊆ t.history := fun e there =>
      mem (List.mem_append_left _ there)
    have seenSecond : release i .contextHandler second ⊆ t.history := fun e there =>
      mem (List.mem_append_right _ there)
    have called : .called i .close ∈ t.history := @mem_of_mem_own i _ _ (by simp [seen])
    obtain ⟨before, after, split⟩ := List.append_of_mem called
    refine ⟨before, after, first, second, split, split ▸ seen, ?_, ?_, ?_, ?_⟩
    · exact fun p there => h.released_of_ready seenFirst split there
    · exact fun p there => h.released_of_ready seenSecond split there
    · exact fun p answer closed => split ▸ h.ready_of_release seenFirst closed
    · exact fun p answer closed => split ▸ h.ready_of_release seenSecond closed

end QuerySession.RegistryCalls
