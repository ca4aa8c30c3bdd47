import QuerySession.Proofs.RegistryCalls.Step

/-!
# One provider of a kind

Many calls need a provider while none is there yet.  They take turns to set one up, and the first
that succeeds ends the turns: from then on everyone finds this provider.

The registry can be read off what happened.  Its provider of a kind is the one that was set up
(`Single.stored`), and its candidates are those that were registered (`Reached.candidates_eq`).  A
provider answers its setup once, so one that failed is never one that succeeded
(`Reached.setUp_once`).
-/

namespace QuerySession.RegistryCalls

variable {offered : ExtensionKind → List Candidate} {t u : RegistryCalls} {kind : ExtensionKind}
  {p : ProviderId} {h : List Happening}

/-! ### Reading a history -/

namespace Happening

/-- The provider of a kind that was set up. -/
def ready? (kind : ExtensionKind) : Happening → Option ProviderId
  | setUp _ k p (.ok ()) => if k = kind then some p else none
  | _ => none

/-- The candidate for a kind that was registered. -/
def registers? (kind : ExtensionKind) : Happening → Option Candidate
  | registered k c => if k = kind then some c else none
  | _ => none

/-- Whether a provider answered its setup. -/
def answers (p : ProviderId) : Happening → Bool
  | setUp _ _ q _ => q = p
  | _ => false

end Happening

/-- The providers of a kind that were set up. -/
def ready (kind : ExtensionKind) (h : List Happening) : List ProviderId :=
  h.filterMap (Happening.ready? kind)

/-- The candidates for a kind that were registered. -/
def registered (kind : ExtensionKind) (h : List Happening) : List Candidate :=
  h.filterMap (Happening.registers? kind)

/-- What was seen of one call, oldest first. -/
def own (i : Nat) (h : List Happening) : List Happening := h.filter (·.caller? = some i)

theorem ready_append (kind : ExtensionKind) (h h' : List Happening) :
    ready kind (h ++ h') = ready kind h ++ ready kind h' := List.filterMap_append

theorem registered_append (kind : ExtensionKind) (h h' : List Happening) :
    registered kind (h ++ h') = registered kind h ++ registered kind h' := List.filterMap_append

theorem made_append (h h' : List Happening) : made (h ++ h') = made h ++ made h' :=
  List.filterMap_append

theorem own_append (i : Nat) (h h' : List Happening) : own i (h ++ h') = own i h ++ own i h' :=
  List.filter_append ..

theorem ready_singleton (kind : ExtensionKind) (e : Happening) :
    ready kind [e] = (e.ready? kind).toList := by
  cases answer : e.ready? kind <;> simp [ready, answer]

theorem registered_singleton (kind : ExtensionKind) (e : Happening) :
    registered kind [e] = (e.registers? kind).toList := by
  cases answer : e.registers? kind <;> simp [registered, answer]

theorem made_singleton (e : Happening) : made [e] = e.makes?.toList := by
  cases answer : e.makes? <;> simp [made, answer]

theorem own_singleton (i : Nat) (e : Happening) :
    own i [e] = if e.caller? = some i then [e] else [] := by
  simp only [own, List.filter_cons, decide_eq_true_eq, List.filter_nil]

/-- What was set up stays so. -/
theorem mem_ready_append (mem : p ∈ ready kind h) (h' : List Happening) :
    p ∈ ready kind (h ++ h') := by
  rw [ready_append]
  exact List.mem_append_left _ mem

theorem mem_ready_of_setUp {i : Nat} (mem : .setUp i kind p (.ok ()) ∈ h) : p ∈ ready kind h :=
  List.mem_filterMap.mpr ⟨_, mem, if_pos rfl⟩

theorem setUp_of_mem_ready (mem : p ∈ ready kind h) : ∃ i, .setUp i kind p (.ok ()) ∈ h := by
  obtain ⟨e, found, answer⟩ := List.mem_filterMap.mp mem
  cases e with
  | setUp i k q result =>
    cases result with
    | ok _ =>
      simp only [Happening.ready?, Option.ite_none_right_eq_some, Option.some.injEq] at answer
      obtain ⟨rfl, rfl⟩ := answer
      exact ⟨i, found⟩
    | error _ => cases answer
  | _ => cases answer

/-! ### What becomes of the registry -/

/-- The provider of a kind after a step: the one that was set up, or else the one before. -/
theorem Happening.provider?_effect (r : Registry) (e : Happening) (kind : ExtensionKind) :
    (e.effect r).provider? kind = (e.ready? kind).or (r.provider? kind) := by
  cases e with
  | setUp i k p answer =>
    cases answer with
    | ok _ => simp only [effect, ready?, Registry.provider?_keep]; split <;> rfl
    | error _ => rfl
  | registered k c => exact Registry.provider?_register ..
  | _ => rfl

/-- The candidates for a kind after a step: those before, and the one that was registered. -/
theorem Happening.candidates_effect (r : Registry) (e : Happening) (kind : ExtensionKind) :
    (e.effect r).candidates kind = r.candidates kind ++ (e.registers? kind).toList := by
  cases e with
  | setUp i k p answer => cases answer <;> simp [effect, registers?]
  | registered k c =>
    simp only [effect, registers?, Registry.candidates_register]
    split <;> rfl
  | _ => simp [effect, registers?]

/-- **The candidates are those that were registered**, in this order. -/
theorem Reached.candidates_eq (h : Reached offered t) (kind : ExtensionKind) :
    t.registry.candidates kind = offered kind ++ registered kind t.history := by
  induction h using Reached.induction with
  | start spans h =>
    cases kind <;> exact (List.append_nil _).symm
  | step before after taken ih =>
    rw [taken.registry_eq, taken.history_eq, Happening.candidates_effect, ih, registered_append,
      registered_singleton, List.append_assoc]

/-! ### Turns -/

/-- The provider that a call is setting up, with its kind. -/
def Stage.making? : Stage → Option (ExtensionKind × ProviderId)
  | setting aim _ _ p => some (aim.kind, p)
  | _ => none

/-- A call that had what it needed sets nothing up at once. -/
@[simp] theorem Stage.making?_after (settings : Settings) (aim : Aim)
    (result : Except Error ProviderId) : (Stage.after settings aim result).making? = none := by
  cases aim <;> cases result <;> rfl

@[simp] theorem Stage.making?_afterClose (closing : ExtensionKind) :
    (Stage.afterClose closing).making? = none := by cases closing <;> rfl

@[simp] theorem Stage.making?_first (request : Request) : (Stage.first request).making? = none := by
  cases request <;> rfl

theorem Stage.sets_eq (stage : Stage) (kind : ExtensionKind) :
    stage.sets kind = stage.making?.any fun m => m.1 = kind := by cases stage <;> rfl

/-- What a step does for the providers that are being set up: it begins with one, when there is a
turn to take, or comes to the end of one, or is about something else. -/
inductive Turn (t : RegistryCalls) (i : Nat) : Option (ExtensionKind × ProviderId) → Happening →
    Option (ExtensionKind × ProviderId) → Prop
  | begun {kind : ExtensionKind} {settings : Settings} {name : String} {factory : Factory}
      {p : ProviderId} (empty : t.registry.provider? kind = none) (free : t.setters kind = 0)
      (new : p ∉ made t.history) :
      Turn t i none (.made i kind settings name factory p) (some (kind, p))
  | ended {kind : ExtensionKind} {p : ProviderId} (answer : Except Error Unit) :
      Turn t i (some (kind, p)) (.setUp i kind p answer) none
  | quiet {e : Happening} (none_ready : ∀ kind, e.ready? kind = none) (none_made : e.makes? = none)
      (no_answer : ∀ p, e.answers p = false) : Turn t i none e none

theorem Shift.turn {i : Nat} {old new : Stage} {e : Happening} (shift : Shift t i old e new) :
    Turn t i old.making? e new.making? := by
  cases shift with
  | made empty free chosen new => exact .begun empty free new
  | setUp answer =>
    rw [Stage.making?_after]
    exact .ended answer
  | found full =>
    rw [Stage.making?_after]
    exact .quiet (fun _ => rfl) rfl fun _ => rfl
  | unmatched empty free chosen =>
    rw [Stage.making?_after]
    exact .quiet (fun _ => rfl) rfl fun _ => rfl
  | closeSent full => exact .quiet (fun _ => rfl) rfl fun _ => rfl
  | passed empty =>
    rw [Stage.making?_afterClose]
    exact .quiet (fun _ => rfl) rfl fun _ => rfl
  | closeAnswered answer =>
    rw [Stage.making?_afterClose]
    exact .quiet (fun _ => rfl) rfl fun _ => rfl

/-- The calls that are setting up a provider of a kind, after one call has moved. -/
theorem setters_put (kind : ExtensionKind) {i : Nat} {old : Stage}
    (at_ : t.stages[i]? = some old) (new : Stage) (e : Happening) :
    (t.put i new e).setters kind + (old.making?.any fun m => m.1 = kind).toNat =
      t.setters kind + (new.making?.any fun m => m.1 = kind).toNat := by
  rw [← Stage.sets_eq, ← Stage.sets_eq]
  exact countP_put (Stage.sets kind) at_ new e

theorem setters_join (t : RegistryCalls) (request : Request) (kind : ExtensionKind) :
    (t.join request).setters kind = t.setters kind := by
  simp [setters, join, List.countP_append, Stage.sets_eq]

/-- Which providers of a kind there are, and how many are underway. -/
structure Single (t : RegistryCalls) (kind : ExtensionKind) : Prop where
  /-- The provider of the registry is the one that was set up. -/
  stored : ready kind t.history = (t.registry.provider? kind).toList
  /-- One call at a time sets a provider up, and none when there is one. -/
  turns : t.setters kind + (ready kind t.history).length ≤ 1

/-- A step takes a turn only when there is one to take, and whoever succeeds gives it up. -/
theorem Single.turns_step {e : Happening} (single : Single t kind) (taken : Step t e u) :
    u.setters kind + ((ready kind t.history).length + (e.ready? kind).toList.length) ≤ 1 := by
  have before := single.turns
  cases taken with
  | called request => simpa [setters_join, Happening.ready?] using before
  | registered k c => exact before
  | @moved i old new _ at_ shift =>
    have counted := setters_put kind at_ new e
    have turn := shift.turn
    generalize old.making? = left, new.making? = reached at counted turn
    cases turn with
    | @begun k settings name factory p empty free new =>
      rcases eq_or_ne k kind with rfl | other
      · -- It is this call's turn, and nobody succeeded so far.
        have none_yet : ready k t.history = [] := by rw [single.stored, empty]; rfl
        simp [free] at counted
        simp [counted, none_yet, Happening.ready?]
      · simp [other] at counted
        simpa [counted, Happening.ready?] using before
    | @ended k p answer =>
      by_cases same : k = kind <;> cases answer <;>
        simp [same, Happening.ready?] at counted ⊢ <;> omega
    | quiet none_ready =>
      simp at counted
      simpa [counted, none_ready kind] using before

theorem Single.step {e : Happening} (single : Single t kind) (taken : Step t e u) :
    Single u kind := by
  have stored : ready kind u.history = ready kind t.history ++ (e.ready? kind).toList := by
    rw [taken.history_eq, ready_append, ready_singleton]
  have turns := single.turns_step taken
  refine ⟨?_, by rwa [stored, List.length_append]⟩
  rw [stored, taken.registry_eq, Happening.provider?_effect]
  cases found : e.ready? kind with
  | none => rw [Option.none_or, Option.toList_none, List.append_nil, single.stored]
  | some p =>
    -- Whoever succeeds is the first.
    rw [found, Option.toList_some, List.length_singleton] at turns
    have first : ready kind t.history = [] := List.eq_nil_of_length_eq_zero (by omega)
    rw [first]
    rfl

/-- **There is one provider of a kind**, and one at a time is set up. -/
theorem Reached.single (h : Reached offered t) (kind : ExtensionKind) : Single t kind := by
  induction h using Reached.induction with
  | start spans h =>
    refine ⟨?_, Nat.zero_le 1⟩
    cases kind <;> rfl
  | step before after taken ih => exact ih.step taken

theorem Reached.provider?_eq_some_iff (h : Reached offered t) :
    t.registry.provider? kind = some p ↔ p ∈ ready kind t.history := by
  rw [(h.single kind).stored, Option.mem_toList]

theorem Reached.provider?_eq_none_iff (h : Reached offered t) :
    t.registry.provider? kind = none ↔ ready kind t.history = [] := by
  rw [(h.single kind).stored]
  cases t.registry.provider? kind <;> simp

/-- There is one provider of a kind. -/
theorem Reached.ready_unique (h : Reached offered t) {q : ProviderId}
    (one : p ∈ ready kind t.history) (other : q ∈ ready kind t.history) : p = q := by
  have first := h.provider?_eq_some_iff.mpr one
  rw [h.provider?_eq_some_iff.mpr other] at first
  exact (Option.some.inj first).symm

/-! ### Every provider answers once -/

/-- Whether a call is setting up a provider. -/
def Stage.readies (p : ProviderId) (stage : Stage) : Bool := stage.making?.any fun m => m.2 = p

/-- A provider is made once at most, and was set up or is being set up as often. -/
theorem Reached.answers_add (h : Reached offered t) (p : ProviderId) :
    t.history.countP (Happening.answers p) + t.stages.countP (Stage.readies p) =
      (made t.history).count p ∧ (made t.history).count p ≤ 1 := by
  induction h using Reached.induction with
  | start spans h => exact ⟨rfl, Nat.zero_le 1⟩
  | @step t u e before after taken ih =>
    obtain ⟨ih, once⟩ := ih
    rw [taken.history_eq, List.countP_append, made_append, made_singleton, List.count_append]
    cases taken with
    | called request =>
      simp [join, List.countP_append, Stage.readies, Happening.answers, Happening.makes?] at ih ⊢
      exact ⟨ih, once⟩
    | registered k c => exact ⟨ih, once⟩
    | @moved i old new _ at_ shift =>
      have counted := countP_put (Stage.readies p) at_ new e
      have turn := shift.turn
      rw [Stage.readies, Stage.readies] at counted
      generalize old.making? = left, new.making? = reached at counted turn
      cases turn with
      | @begun k settings name factory q empty free new =>
        by_cases same : q = p
        · have fresh : (RegistryCalls.made t.history).count p = 0 :=
            List.count_eq_zero.mpr (same ▸ new)
          simp [same] at counted
          simp [Happening.answers, Happening.makes?, same]
          omega
        · simp [same] at counted
          simp [Happening.answers, Happening.makes?, same]
          omega
      | @ended k q answer =>
        by_cases same : q = p <;>
          simp [same, Happening.answers, Happening.makes?] at counted ⊢ <;> omega
      | quiet none_ready none_made no_answer =>
        simp at counted
        simp [none_made, no_answer p, counted, ih, once]

/-- **A provider answers its setup once.** -/
theorem Reached.setUp_once (h : Reached offered t) {i j : Nat} {k l : ExtensionKind}
    {a b : Except Error Unit} (first : .setUp i k p a ∈ t.history)
    (second : .setUp j l p b ∈ t.history) : i = j ∧ k = l ∧ a = b := by
  obtain ⟨counted, once⟩ := h.answers_add p
  have le : t.history.countP (Happening.answers p) ≤ 1 := by omega
  have same := eq_of_countP_le_one le first second (decide_eq_true rfl) (decide_eq_true rfl)
  cases same
  exact ⟨rfl, rfl, rfl⟩

/-- A provider whose setup failed is none of those that were set up. -/
theorem Reached.not_ready_of_failed (h : Reached offered t) {i : Nat} {k : ExtensionKind} {e : Error}
    (failed : .setUp i k p (.error e) ∈ t.history) (kind : ExtensionKind) :
    p ∉ ready kind t.history := by
  intro mem
  obtain ⟨j, succeeded⟩ := setUp_of_mem_ready mem
  obtain ⟨-, -, same⟩ := h.setUp_once failed succeeded
  cases same

end QuerySession.RegistryCalls
