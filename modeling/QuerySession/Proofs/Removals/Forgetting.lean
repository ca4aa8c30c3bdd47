import QuerySession.Proofs.Removals.Step

/-!
# What overlapping removals forget

A removal has the table of a name dropped, and forgets the name when that has succeeded.  What it
drops is the alias that the name had when it looked, and what it forgets is the alias that the
name has then. `Removals.Reached.orderly` says when the two are the same: exactly if no other
removal took the alias of this name in between.  If one did, the name may have been registered
again, and the alias that is forgotten belongs to a table that nobody dropped
(`forgotten_undropped`).

An alias that was taken does not come back, since no alias is given twice
(`Registrations.Served.fresh`).  So the alias that a removal looked up is still that of the name as
long as nobody took it, and never again afterwards (`Reached.pending`).

## Main Definitions

* `Removals.Undisturbed` — nobody took the alias of a name since a removal looked it up
* `Removals.Pending` — what a removal that has not returned can know of the alias it looked up
* `Removals.Orderly` — what removals can rely on

## Main Results

* `Removals.Reached.grounded` — what came before a removal forgot a name
* `Removals.Reached.orderly` — when a removal forgets what it dropped
-/

namespace QuerySession.Removals

variable {uri : String → String} {o p : Removals} {moves : List Move}
  {placed : List Registrations.Move}

/-! ## Taking the alias of a name -/

/-- Whether the alias of a name is taken, the name being given in any letter case. -/
def Happening.takes (name : String) : Happening → Bool
  | forgot _ other (some _) => Text.lowerCase other = Text.lowerCase name
  | _ => false

/-- Whether a removal sends its drop, for the alias that it has just looked up. -/
def Happening.sends (i : Nat) : Happening → Bool
  | dropSent j .. => j = i
  | _ => false

/-- Nobody took the alias of a name since removal `i` looked it up. -/
def Undisturbed (i : Nat) (name : String) (h : List Happening) : Prop :=
  ∀ e ∈ since (Happening.sends i) h, e.takes name = false

/-- A removal that looks a name up is undisturbed at first. -/
theorem undisturbed_of_sends {i : Nat} (name : String) (h : List Happening) {e : Happening}
    (sends : e.sends i = true) : Undisturbed i name (h ++ [e]) := by
  unfold Undisturbed
  rw [since_concat, if_pos sends]
  intro e mem
  cases mem

/-- It stays undisturbed as long as nobody takes the alias of the name. -/
theorem undisturbed_concat_iff {i : Nat} {name : String} {h : List Happening} {e : Happening}
    (other : e.sends i = false) :
    Undisturbed i name (h ++ [e]) ↔ Undisturbed i name h ∧ e.takes name = false := by
  unfold Undisturbed
  rw [since_concat, if_neg (Bool.eq_false_iff.mp other), List.forall_mem_append,
    List.forall_mem_singleton]

/-- The name of a removal that has not returned, and the alias that it looked up. -/
def due? : Removal → Option (String × String)
  | .dropping _ name tableAlias | .dropped _ name tableAlias => some (name, tableAlias)
  | .called .. | .removed .. => none

/-- The alias that a removal looked up was given to the name, and it is that of the name as long as
nobody took it. -/
def Pending (placed : List Registrations.Move) (o : Removals) : Prop :=
  ∀ (i : Nat) (removal : Removal) (name tableAlias : String), o.removals[i]? = some removal →
    due? removal = some (name, tableAlias) →
      Registrations.Gave (Registrations.orders placed) o.registrations (Text.lowerCase name)
          tableAlias ∧
        (o.registrations.tables.resolve? name = some tableAlias ↔ Undisturbed i name o.history)

/-- The other calls leave the alias of a name where it is, and do not give one back that was
taken. -/
theorem resolve?_iff_of_registrations {d e : Registrations} {m : Registrations.Move}
    (served : Registrations.Served placed d) (distinct : (Registrations.tokens placed).Nodup)
    (taken : Registrations.Step uri d m e) {name tableAlias : String}
    (gave : Registrations.Gave placed d (Text.lowerCase name) tableAlias) :
    e.tables.resolve? name = some tableAlias ↔ d.tables.resolve? name = some tableAlias := by
  rcases taken.tables_cases with same | ⟨k, call, other, token, waits, -, new⟩
  · rw [same]
  · rw [new, Tables.resolve?_register]
    split
    · rename_i lower
      rw [← Tables.resolve?_congr lower]
      cases was : d.tables.resolve? other with
      | some found => rw [Tables.register_of_known was]
      | none =>
        -- The alias is made of the token of this call, and the other one is not.
        rw [Tables.register_of_unknown was]
        constructor
        · intro same
          exact absurd (Option.some.inj same) (served.fresh distinct waits gave)
        · intro impossible
          cases impossible
    · exact Iff.rfl

/-- A removal of a name that takes nothing else leaves the alias of another name where it is, and
takes that of the same one. -/
theorem resolve?_iff_of_forgot (t : Tables) {i j : Nat} {name other tableAlias : String}
    {h : List Happening} (stands : t.resolve? name = some tableAlias ↔ Undisturbed i name h) :
    (t.remove other).2.resolve? name = some tableAlias ↔
      Undisturbed i name (h ++ [.forgot j other (t.resolve? other)]) := by
  rw [undisturbed_concat_iff rfl, ← stands, Tables.resolve?_remove]
  split
  · rename_i lower
    rw [← Tables.resolve?_congr lower]
    cases t.resolve? other <;> simp [Happening.takes, lower]
  · rename_i differ
    cases t.resolve? other <;> simp [Happening.takes, differ]

/-- What another removal does, seen from one that has not returned. -/
theorem Shift.resolve?_iff {i j : Nat} {old new : Removal} {happening : Happening} {tables : Tables}
    (shift : Shift o j old happening new tables) (other : j ≠ i) {name tableAlias : String}
    (stands : o.registrations.tables.resolve? name = some tableAlias ↔
      Undisturbed i name o.history) :
    tables.resolve? name = some tableAlias ↔ Undisturbed i name (o.history ++ [happening]) := by
  cases shift with
  | missed unknown | dropFailed e | dropped =>
    rw [undisturbed_concat_iff rfl, stands]
    exact (and_iff_left rfl).symm
  | @dropSent w looked found known =>
    have quiet : (Happening.dropSent j w.key looked found).sends i = false :=
      decide_eq_false other
    rw [undisturbed_concat_iff quiet, stands]
    exact (and_iff_left rfl).symm
  | forgot => exact resolve?_iff_of_forgot _ stands

/-- An alias that was given was given for good, also if it is taken. -/
theorem Shift.gave {i : Nat} {old new : Removal} {happening : Happening} {tables : Tables}
    (shift : Shift o i old happening new tables) {key tableAlias : String}
    (gave : Registrations.Gave placed o.registrations key tableAlias) :
    Registrations.Gave placed (o.put i new happening tables).registrations key tableAlias := by
  have same : tables.sessionId = o.registrations.tables.sessionId := by cases shift <;> rfl
  obtain ⟨k, w, name, token, order, errand, lower, of_token⟩ := gave
  refine ⟨k, w, name, token, order, errand, lower, ?_⟩
  rw [of_token, put, Tables.aliasOf, Tables.aliasOf, same]

/-- What was looked up is still there exactly if nobody took it, if the tokens are distinct. -/
theorem Reached.pending (h : Reached uri moves o)
    (distinct : (Registrations.tokens (registrationMoves moves)).Nodup) :
    Pending (registrationMoves moves) o := by
  refine h.induction
    (motive := fun placed o => (Registrations.tokens placed).Nodup → Pending placed o)
    ?_ ?_ distinct
  · intro r id credentials _ i removal name tableAlias at_
    cases at_
  · intro moves m o p reached taken ih distinct
    have earlier := Registrations.nodup_tokens_of_append distinct
    have pending := ih earlier
    intro i removal name tableAlias at_ due
    cases taken with
    | @registrations m d one =>
      obtain ⟨gave, stands⟩ := pending i removal name tableAlias at_ due
      refine ⟨Registrations.orders_append .. ▸ gave.kept (.of_step one), ?_⟩
      rw [← stands]
      rw [← Registrations.tokens_orders] at earlier
      exact resolve?_iff_of_registrations reached.served earlier (.of_step one) gave
    | called w other =>
      rw [show Option.toList (none : Option Registrations.Move) = [] from rfl, List.append_nil]
      rcases getElem?_concat at_ with old | ⟨-, rfl⟩
      · exact pending i removal name tableAlias old due
      · cases due
    | @moved j old new happening tables stood shift =>
      rw [show Option.toList (none : Option Registrations.Move) = [] from rfl, List.append_nil]
      rw [getElem?_put stood] at at_
      split at at_
      · rename_i here
        cases here
        cases at_
        cases shift with
        | missed unknown => cases due
        | dropSent known =>
          cases due
          refine ⟨reached.served.giver _ _ known, ?_⟩
          exact iff_of_true known (undisturbed_of_sends _ _ (decide_eq_true rfl))
        | dropFailed e => cases due
        | dropped =>
          cases due
          obtain ⟨gave, stands⟩ := pending i _ _ _ stood rfl
          refine ⟨gave, ?_⟩
          rw [put, undisturbed_concat_iff rfl]
          exact stands.trans (and_iff_left rfl).symm
        | forgot => cases due
      · rename_i other
        obtain ⟨gave, stands⟩ := pending i removal name tableAlias at_ due
        exact ⟨shift.gave gave, shift.resolve?_iff other stands⟩

/-! ## The promise -/

/-- What removals can rely on, in any state of a session. -/
structure Orderly (uri : String → String) (o : Removals) : Prop where
  /-- A name loses its alias only when a removal of this name forgets it. -/
  lost : ∀ (m : Move) (p : Removals) (key tableAlias : String), o.step uri m = some p →
    o.registrations.tables.aliases.find? key = some tableAlias →
      p.registrations.tables.aliases.find? key ≠ some tableAlias →
        ∃ i name, p.history = o.history ++ [.forgot i name (some tableAlias)] ∧
          Text.lowerCase name = key
  /-- A removal that forgets a name has had the table dropped whose alias it looked up. -/
  dropped : ∀ i name taken before after,
    o.history = before ++ .forgot i name taken :: after →
      ∃ key tableAlias, .dropSent i key name tableAlias ∈ before ∧
        .dropAnswered i key tableAlias (.ok ()) ∈ before
  /-- The alias that it takes is that of a table that it has had dropped exactly if no other removal
  took the alias of this name after it looked. -/
  own_iff : ∀ i name tableAlias before after,
    o.history = before ++ .forgot i name (some tableAlias) :: after →
      ((∃ key, .dropAnswered i key tableAlias (.ok ()) ∈ before) ↔ Undisturbed i name before)

/-- A step that takes the alias of a name away is a removal of this name. -/
theorem Step.forgot_of_lost {m : Option Registrations.Move} (taken : Step uri o m p)
    {key tableAlias : String} (known : o.registrations.tables.aliases.find? key = some tableAlias)
    (gone : p.registrations.tables.aliases.find? key ≠ some tableAlias) :
    ∃ i name, p.history = o.history ++ [.forgot i name (some tableAlias)] ∧
      Text.lowerCase name = key := by
  cases taken with
  | @registrations m d one =>
    -- A registration keeps the aliases that are there.
    rcases (Registrations.Step.of_step one).tables_cases with
      same | ⟨k, call, name, token, -, -, new⟩
    · exact absurd (same ▸ known) gone
    · refine absurd ?_ gone
      show d.tables.aliases.find? key = some tableAlias
      rw [new, Tables.find?_register]
      split
      · rename_i here
        subst here
        rw [Tables.register_of_known known]
      · exact known
  | called w name => exact absurd known gone
  | @moved i old new happening tables at_ shift =>
    cases shift with
    | @forgot w name dropped =>
      simp only [put, Tables.find?_remove] at gone
      split at gone
      · rename_i here
        subst here
        have taken : o.registrations.tables.resolve? name = some tableAlias := known
        exact ⟨i, name, by rw [put, taken], rfl⟩
      · exact absurd known gone
    | _ => exact absurd known gone

/-- What came before a removal forgot a name: it had a table dropped, and that of the alias which it
takes exactly if nobody else took one. -/
def Grounded (before : List Happening) (e : Happening) : Prop :=
  ∀ i name taken, e = .forgot i name taken →
    ∃ key tableAlias, .dropSent i key name tableAlias ∈ before ∧
      .dropAnswered i key tableAlias (.ok ()) ∈ before ∧
        ∀ found, taken = some found →
          ((∃ key, .dropAnswered i key found (.ok ()) ∈ before) ↔ Undisturbed i name before)

/-- **What a removal takes** is grounded in what happened before, if the tokens are distinct. -/
theorem Reached.grounded (h : Reached uri moves o)
    (distinct : (Registrations.tokens (registrationMoves moves)).Nodup) :
    Throughout Grounded o.history := by
  refine h.induction (motive := fun placed o => (Registrations.tokens placed).Nodup →
    Throughout Grounded o.history) ?_ ?_ distinct
  · intro r id credentials _
    exact throughout_nil _
  · intro moves m o p reached taken ih distinct
    have earlier := Registrations.nodup_tokens_of_append distinct
    cases taken with
    | registrations one => exact ih earlier
    | called w name => exact ih earlier
    | @moved i old new happening tables at_ shift =>
      refine throughout_concat.mpr ⟨ih earlier, ?_⟩
      rintro j name taken rfl
      cases shift with
      | @forgot w name tableAlias =>
        have told : own i o.history =
            [.dropSent i w.key name tableAlias, .dropAnswered i w.key tableAlias (.ok ())] :=
          reached.story.2 i _ at_
        have mine {e : Happening} (mem : e ∈ own i o.history) : e ∈ o.history :=
          (mem_own_iff.mp mem).1
        refine ⟨w.key, tableAlias, mine (by simp [told]), mine (by simp [told]), ?_⟩
        intro found has
        rw [← (reached.pending earlier i _ name tableAlias at_ rfl).2, has, Option.some.injEq]
        constructor
        · rintro ⟨key, answered⟩
          have own_answer : .dropAnswered i key found (.ok ()) ∈ own i o.history :=
            mem_own_iff.mpr ⟨answered, rfl⟩
          rw [told] at own_answer
          obtain ⟨-, same⟩ : key = w.key ∧ found = tableAlias := by simpa using own_answer
          exact same
        · rintro rfl
          exact ⟨w.key, mine (by simp [told])⟩

/-- **Removals forget what they dropped, unless another one of the same name comes between.**  In
every schedule of any number of registrations, removals and ends of a session, with any answers of
the storages and the workspaces, the promise is kept at every moment, if the tokens of the
registrations are distinct. -/
theorem Reached.orderly (h : Reached uri moves o)
    (distinct : (Registrations.tokens (registrationMoves moves)).Nodup) : Orderly uri o where
  lost := fun m p key tableAlias one known gone => (Step.of_step one).forgot_of_lost known gone
  dropped := by
    intro i name taken before after split
    obtain ⟨key, tableAlias, sent, answered, -⟩ :=
      h.grounded distinct before _ after split i _ _ rfl
    exact ⟨key, tableAlias, sent, answered⟩
  own_iff := by
    intro i name tableAlias before after split
    obtain ⟨-, -, -, -, own⟩ := h.grounded distinct before _ after split i _ _ rfl
    exact own tableAlias rfl

/-- The steps of a registration on a new session, up to the alias. -/
def provided (name token : String) : List Move :=
  [.registrations (.register LocationCalls.scratch name token),
    .registrations (.locations (.proceed 0)), .registrations (.locations (.proceed 0)),
    .registrations (.locations (.proceed 0)), .registrations (.locations (.create 0 (.ok ()))),
    .registrations (.locations (.proceed 0)), .registrations (.locations (.probe 0 (.ok true))),
    .registrations (.locations (.proceed 0)), .registrations (.enlist 0)]

/-- A session to try things out with. -/
def fresh : Removals := ofSession (Session.ofRequest ⟨none, [], false, false, none, []⟩ "s" ⟨"u"⟩)

/-- What is reached in a trial is reached. -/
theorem Reached.of_trial (h : fresh.run uri moves = some o) : Reached uri moves o :=
  ⟨_, _, _, h⟩

/-- A table is registered and removed. -/
def removedAlone : List Move :=
  provided "t" "a" ++ [.remove LocationCalls.scratch "T", .look 0, .answer 0 (.ok ()), .forget 0]

/-- The removal forgets what it dropped. -/
theorem orderly_removedAlone : ∃ o, fresh.run id removedAlone = some o ∧
    (Registrations.tokens (registrationMoves removedAlone)).Nodup ∧ Orderly id o ∧
      o.history = [.dropSent 0 "w1" "T" "s/a", .dropAnswered 0 "w1" "s/a" (.ok ()),
        .forgot 0 "T" (some "s/a")] ∧ o.registrations.tables.resolve? "t" = none := by
  have distinct : (Registrations.tokens (registrationMoves removedAlone)).Nodup := by decide
  exact ⟨_, rfl, distinct, Reached.orderly (.of_trial rfl) distinct, rfl, rfl⟩

/-- Two removals of one table overlap: both have it dropped, and before the second one forgets the
name, the table is registered again. -/
def removedTwice : List Move :=
  provided "t" "a" ++
    [.remove LocationCalls.scratch "t", .remove LocationCalls.scratch "t", .look 0, .look 1,
      .answer 0 (.ok ()), .forget 0,
      .registrations (.register LocationCalls.scratch "t" "b"),
      .registrations (.locations (.proceed 1)), .registrations (.locations (.proceed 1)),
      .registrations (.locations (.proceed 1)),
      .registrations (.locations (.proceed 1)), .registrations (.enlist 1),
      .answer 1 (.ok ()), .forget 1]

/-- The second removal takes the alias of the new table, which nobody had dropped. -/
theorem forgotten_undropped : ∃ o before, fresh.run id removedTwice = some o ∧
    (Registrations.tokens (registrationMoves removedTwice)).Nodup ∧
      o.registrations.errands[1]? = some (.registered "t" (.ok "s/b")) ∧
        o.history = before ++ [.forgot 1 "t" (some "s/b")] ∧
          (∀ i key answer, .dropAnswered i key "s/b" answer ∉ before) ∧
            o.registrations.tables.resolve? "t" = none := by
  refine ⟨_, [.dropSent 0 "w1" "t" "s/a", .dropSent 1 "w1" "t" "s/a",
    .dropAnswered 0 "w1" "s/a" (.ok ()), .forgot 0 "t" (some "s/a"),
    .dropAnswered 1 "w1" "s/a" (.ok ())], rfl, by decide, rfl, rfl, ?_, rfl⟩
  intro i key answer mem
  simp at mem

end QuerySession.Removals
