import QuerySession.Options.Layers
import QuerySession.Proofs.Bags
import QuerySession.Proofs.Histories
import QuerySession.Proofs.Keyed

/-!
# Options follow their history

What an overlay answers is decided by the calls that were made: the last value that was set on this
very overlay, under the name in any letter case, and else the last one that was set on the system's
bag, for overlays that fall back on it.  The state of an overlay is that of a new one to which all
that was ever set on it is applied (`OptionLayers.sessions_after`), so what is done to others cannot
be seen in it.

## Main Definitions

* `OptionLayers.opened`, `OptionLayers.told`, `OptionLayers.toldSystem` — what calls say of overlays
  and the bag
* `OptionLayers.expected` — what is to be answered, by the calls so far

## Main Results

* `OptionLayers.system_after`, `OptionLayers.sessions_after` — the state by the calls so far
* `OptionLayers.serve_apart` — a call on one overlay changes no answer of others
* `OptionLayers.answers_follow` — every answer is the expected one
-/

namespace QuerySession

/-! ## What a sequence of writes leaves -/

namespace SessionOptions

/-- Which names an overlay holds after options were set, by lower-casing. -/
theorem isSome_applyAll (o : SessionOptions) (options : List OptionValue) (key : String) :
    ((o.applyAll options).values.find? key).isSome = true ↔
      key ∈ options.map (Text.lowerCase ·.name) ∨ (o.values.find? key).isSome = true := by
  induction options using List.reverseRecOn with
  | nil => simp [applyAll]
  | append_singleton options v ih =>
    have one : ((o.applyAll (options ++ [v])).values.find? key) =
        if Text.lowerCase v.name = key then some (atSession v)
        else (o.applyAll options).values.find? key := by
      rw [applyAll, List.foldl_append]
      exact Keyed.find?_put ..
    rw [one, List.map_append, List.mem_append, List.map_singleton, List.mem_singleton]
    split
    · rename_i same
      simp [same]
    · rename_i other
      rw [ih]
      simp [Ne.symm other]

end SessionOptions

/-- What the bag answers after options were set: the last of the name, as it was set. -/
theorem SystemOptions.find?_foldl (options : List OptionValue) (name : String) :
    (options.foldl set empty).find? name = SessionOptions.last? options name := by
  induction options using List.reverseRecOn with
  | nil => rfl
  | append_singleton options v ih =>
    rw [List.foldl_append, SessionOptions.last?_concat, ← ih]
    exact find?_set ..

namespace OptionLayers

/-! ## What calls say -/

/-- The overlays that were opened, by id and whether they fall back on the bag. -/
def opened (calls : List Call) : List (String × Bool) :=
  calls.filterMap fun
    | .open_ id layered => some (id, layered)
    | _ => none

/-- The calls after overlay `k` was opened. -/
def sinceOpened : Nat → List Call → List Call
  | _, [] => []
  | 0, .open_ .. :: calls => calls
  | k + 1, .open_ .. :: calls => sinceOpened k calls
  | k, _ :: calls => sinceOpened k calls

/-- What a call sets on overlay `k`. -/
def Call.entries (k : Nat) : Call → List OptionValue
  | set j v => if j = k then [v] else []
  | applyAll j vs => if j = k then vs else []
  | _ => []

/-- What was set on overlay `k`, oldest first. -/
def told (k : Nat) (calls : List Call) : List OptionValue :=
  (sinceOpened k calls).flatMap (Call.entries k)

/-- What was set on the bag, oldest first. -/
def toldSystem (calls : List Call) : List OptionValue :=
  calls.filterMap fun
    | .setSystem v => some v
    | _ => none

/-- What is to be answered to a call, by the calls before it. -/
def expected (calls : List Call) : Call → Answer
  | .open_ .. | .setSystem _ => .done
  | .findSystem name => .found (SessionOptions.last? (toldSystem calls) name)
  | .set k _ | .applyAll k _ => if k < (opened calls).length then .done else .nobody
  | .find k name =>
    match (opened calls)[k]? with
    | none => .nobody
    | some (_, layered) => .found <|
      ((SessionOptions.last? (told k calls) name).map SessionOptions.atSession).or
        (if layered then SessionOptions.last? (toldSystem calls) name else none)
  | .count k =>
    if k < (opened calls).length then
      .counted ((told k calls).map (Text.lowerCase ·.name)).dedup.length
    else .nobody

variable {call : Call}

/-- One more call is made after an overlay was opened if it was opened before. -/
theorem sinceOpened_concat (k : Nat) (calls : List Call) (call : Call) :
    sinceOpened k (calls ++ [call]) =
      if k < (opened calls).length then sinceOpened k calls ++ [call] else [] := by
  induction calls generalizing k with
  | nil => rcases k with _ | k <;> rcases call <;> rfl
  | cons first calls ih =>
    rw [List.cons_append]
    by_cases opens : ∃ id layered, first = .open_ id layered
    · obtain ⟨id, layered, rfl⟩ := opens
      have more : opened (.open_ id layered :: calls) = (id, layered) :: opened calls := rfl
      rw [more, List.length_cons]
      rcases k with _ | k
      · rw [if_pos (Nat.succ_pos _)]
        rfl
      · simp only [sinceOpened, ih, Nat.add_lt_add_iff_right]
    · have same (later : List Call) : sinceOpened k (first :: later) = sinceOpened k later ∧
          opened (first :: later) = opened later := by
        rcases first with ⟨id, layered⟩ | _ | _ | _ | _ | _ | _
        · exact absurd ⟨id, layered, rfl⟩ opens
        all_goals exact ⟨by rcases k <;> rfl, rfl⟩
      rw [(same _).1, (same _).1, (same _).2, ih]

/-- What one more call sets on an overlay, if it is open. -/
theorem told_concat (k : Nat) (calls : List Call) (call : Call) :
    told k (calls ++ [call]) =
      if k < (opened calls).length then told k calls ++ call.entries k else [] := by
  rw [told, sinceOpened_concat]
  split
  · rw [List.flatMap_append, List.flatMap_singleton]
    rfl
  · rfl

/-! ## What is left by calls -/

theorem after_concat (calls : List Call) (call : Call) :
    after (calls ++ [call]) = ((after calls).serve call).2 := List.foldl_append ..

/-- The bag after a call. -/
theorem system_serve (b : OptionLayers) (call : Call) :
    (b.serve call).2.system =
      (toldSystem [call]).foldl SystemOptions.set b.system := by
  have kept (k : Nat) (f : SessionOptions → Answer × SessionOptions) :
      (b.on k f).2.system = b.system := by
    unfold on
    split <;> rfl
  rcases call with _ | _ | _ | _ | _ | _ | _
  case set | applyAll | find | count => exact kept ..
  all_goals rfl

/-- The overlays after one was called. -/
theorem sessions_on (b : OptionLayers) (j k : Nat)
    (f : SessionOptions → Answer × SessionOptions) :
    (b.on j f).2.sessions[k]? =
      (b.sessions[k]?).map fun o => if j = k then (f o).2 else o := by
  unfold on
  split
  · rename_i missing
    by_cases same : j = k
    · subst same
      rw [missing]
      rfl
    · simp [same]
  · rename_i o at_
    show (b.sessions.set j (f o).2)[k]? = _
    rw [getElem?_set_of_some at_]
    by_cases same : j = k
    · subst same
      simp [at_]
    · simp [same]

/-- An overlay after a call that opens none: what was set on it is applied to it. -/
theorem sessions_serve (opens : ∀ id layered, call ≠ .open_ id layered) (b : OptionLayers)
    (k : Nat) :
    (b.serve call).2.sessions[k]? = (b.sessions[k]?).map (·.applyAll (call.entries k)) := by
  rcases call with ⟨id, layered⟩ | _ | _ | ⟨j, v⟩ | ⟨j, vs⟩ | ⟨j, name⟩ | j
  case open_ => exact absurd rfl (opens id layered)
  case setSystem | findSystem => exact Option.map_id'.symm
  all_goals
    rw [serve, sessions_on]
    apply congrArg (Option.map · _)
    funext o
    by_cases same : j = k <;> simp only [Call.entries, same, if_true, if_false] <;> rfl

/-- Other calls open nothing. -/
theorem opened_concat (opens : ∀ id layered, call ≠ .open_ id layered) (calls : List Call) :
    opened (calls ++ [call]) = opened calls := by
  rw [opened, List.filterMap_append]
  rcases call with ⟨id, layered⟩ | _ | _ | _ | _ | _ | _
  case open_ => exact absurd rfl (opens id layered)
  all_goals exact List.append_nil _

/-- **The bag** is what all writes to it leave. -/
theorem system_after (calls : List Call) :
    (after calls).system = (toldSystem calls).foldl SystemOptions.set .empty := by
  induction calls using List.reverseRecOn with
  | nil => rfl
  | append_singleton calls call ih =>
    rw [after_concat, system_serve, ih, ← List.foldl_append]
    exact congrArg (List.foldl _ _) (List.filterMap_append ..).symm

/-- There are as many overlays as were opened. -/
theorem length_after (calls : List Call) :
    (after calls).sessions.length = (opened calls).length := by
  have kept (b : OptionLayers) (k : Nat) (f : SessionOptions → Answer × SessionOptions) :
      (b.on k f).2.sessions.length = b.sessions.length := by
    unfold on
    split
    · rfl
    · exact List.length_set
  induction calls using List.reverseRecOn with
  | nil => rfl
  | append_singleton calls call ih =>
    rw [after_concat, opened, List.filterMap_append, List.length_append]
    rcases call with ⟨id, layered⟩ | _ | _ | _ | _ | _ | _
    case open_ => exact List.length_append.trans (congrArg (· + 1) ih)
    case setSystem | findSystem => exact ih
    all_goals exact (kept ..).trans ih

/-- **An overlay** is what all writes to it leave of a new one. -/
theorem sessions_after (calls : List Call) (k : Nat) :
    (after calls).sessions[k]? =
      ((opened calls)[k]?).map fun o => (fresh o.1 o.2).applyAll (told k calls) := by
  induction calls using List.reverseRecOn with
  | nil => rfl
  | append_singleton calls call ih =>
    rw [after_concat]
    by_cases opens : ∃ id layered, call = .open_ id layered
    · obtain ⟨id, layered, rfl⟩ := opens
      have more : opened (calls ++ [.open_ id layered]) = opened calls ++ [(id, layered)] :=
        List.filterMap_append
      show ((after calls).sessions ++ [fresh id layered])[k]? = _
      rw [more, told_concat]
      by_cases there : k < (opened calls).length
      · rw [List.getElem?_append_left (by rw [length_after]; exact there),
          List.getElem?_append_left there, if_pos there, ih]
        exact congrArg (fun l => Option.map (fun o : String × Bool => (fresh o.1 o.2).applyAll l) _)
          (List.append_nil _).symm
      · -- It is the new one, or beyond it.
        have beyond := Nat.not_lt.mp there
        rw [List.getElem?_append_right (by rw [length_after]; exact beyond),
          List.getElem?_append_right beyond, if_neg there, length_after]
        rcases k - (opened calls).length with _ | _ <;> rfl
    · have opens : ∀ id layered, call ≠ .open_ id layered := fun id layered same =>
        opens ⟨id, layered, same⟩
      rw [sessions_serve opens, ih, opened_concat opens]
      rcases at_ : (opened calls)[k]? with _ | o
      · rfl
      · have there : k < (opened calls).length := (List.getElem?_eq_some_iff.mp at_).1
        rw [told_concat, if_pos there]
        exact congrArg some List.foldl_append.symm

/-! ## What is answered -/

/-- The answer of an overlay is read off its state. -/
theorem answer_on (b : OptionLayers) (k : Nat) (f : SessionOptions → Answer × SessionOptions) :
    (b.on k f).1 = match b.sessions[k]? with
      | none => .nobody
      | some o => (f o).1 := by
  unfold on
  rcases b.sessions[k]? with _ | o <;> rfl

/-- An overlay as it is when it holds nothing. -/
theorem find?_fresh (system : SystemOptions) (id : String) (layered : Bool) (name : String) :
    (fresh id layered).find? system name = if layered then system.find? name else none := by
  rcases layered <;> rfl

/-- How many names an overlay holds, by what was set on it. -/
theorem size_applyAll_fresh (id : String) (layered : Bool) (options : List OptionValue) :
    ((fresh id layered).applyAll options).size =
      (options.map (Text.lowerCase ·.name)).dedup.length := by
  apply Keyed.size_eq_length_dedup
  intro key
  rw [SessionOptions.isSome_applyAll]
  have nothing : (fresh id layered).values.find? key = none := by rcases layered <;> rfl
  simp [nothing]

/-- **A call on one overlay changes no answer of others**, nor any of the bag. -/
theorem serve_apart {call other : Call} {j : Nat} (calls_ : call.session? = some j)
    (apart : other.session? ≠ some j) (b : OptionLayers) :
    ((b.serve call).2.serve other).1 = (b.serve other).1 := by
  have opens : ∀ id layered, call ≠ .open_ id layered := by
    rintro id layered rfl
    cases calls_
  have sameSystem : (b.serve call).2.system = b.system := by
    rw [system_serve]
    rcases call with _ | _ | _ | _ | _ | _ | _
    case open_ | setSystem | findSystem => cases calls_
    all_goals rfl
  have sameSession {k : Nat} (ne : k ≠ j) : (b.serve call).2.sessions[k]? = b.sessions[k]? := by
    rw [sessions_serve opens]
    have none_ : call.entries k = [] := by
      rcases call with _ | _ | _ | ⟨i, v⟩ | ⟨i, vs⟩ | _ | _
      case set | applyAll =>
        cases calls_
        exact if_neg ne.symm
      all_goals rfl
    rw [none_]
    exact Option.map_id'
  rcases other with _ | _ | name | ⟨k, v⟩ | ⟨k, vs⟩ | ⟨k, name⟩ | k
  case open_ | setSystem => rfl
  case findSystem => exact congrArg (fun system => Answer.found (system.find? name)) sameSystem
  all_goals
    have ne : k ≠ j := fun same => apart (congrArg some same)
    have same := sameSession ne
    generalize (b.serve call).2 = left at same sameSystem
    simp only [serve, answer_on, same, sameSystem]

/-- The answer to one more call is the expected one. -/
theorem answer_after (calls : List Call) (call : Call) :
    ((after calls).serve call).1 = expected calls call := by
  have there (k : Nat) (f : SessionOptions → Answer × SessionOptions) :
      ((after calls).on k f).1 = match (opened calls)[k]? with
        | none => .nobody
        | some o => (f ((fresh o.1 o.2).applyAll (told k calls))).1 := by
    rw [answer_on, sessions_after]
    rcases (opened calls)[k]? with _ | o <;> rfl
  have isOpen {k : Nat} {o : String × Bool} (at_ : (opened calls)[k]? = some o) :
      k < (opened calls).length := (List.getElem?_eq_some_iff.mp at_).1
  have isClosed {k : Nat} (at_ : (opened calls)[k]? = none) : ¬ k < (opened calls).length :=
    Nat.not_lt.mpr (List.getElem?_eq_none_iff.mp at_)
  rcases call with _ | _ | name | ⟨k, v⟩ | ⟨k, vs⟩ | ⟨k, name⟩ | k
  case open_ | setSystem => rfl
  case findSystem =>
    rw [serve, expected, system_after, SystemOptions.find?_foldl]
  case find =>
    rw [serve, there, expected]
    rcases (opened calls)[k]? with _ | ⟨id, layered⟩
    · rfl
    · simp only
      rw [SessionOptions.find?_applyAll, find?_fresh, system_after, SystemOptions.find?_foldl]
  case count =>
    rw [serve, there, expected]
    rcases at_ : (opened calls)[k]? with _ | ⟨id, layered⟩
    · exact (if_neg (isClosed at_)).symm
    · rw [if_pos (isOpen at_)]
      exact congrArg Answer.counted (size_applyAll_fresh ..)
  all_goals
    rw [serve, there, expected]
    rcases at_ : (opened calls)[k]? with _ | o
    · exact (if_neg (isClosed at_)).symm
    · exact (if_pos (isOpen at_)).symm

/-- **Options follow their history.**  Whatever calls were made, every further one gets the answer
that is expected by what was set before; and whatever the state is, a call on one overlay changes no
answer of others, nor any of the bag. -/
theorem answers_follow (calls : List Call) :
    (∀ call, ((after calls).serve call).1 = expected calls call) ∧
      ∀ (b : OptionLayers) (call other : Call) (k : Nat), call.session? = some k →
        other.session? ≠ some k → ((b.serve call).2.serve other).1 = (b.serve other).1 :=
  ⟨answer_after calls, fun b _ _ _ calls_ apart => serve_apart calls_ apart b⟩

/-- Two overlays over one bag, one of which sets a width in its own spelling before the bag sets
another. -/
def twoTenants : List Call :=
  [.setSystem ⟨.query, "planner.width", .whole 8⟩, .open_ "s" true, .open_ "t" true,
    .applyAll 0 [⟨.system, "Planner.Width", .whole 9⟩, ⟨.query, "PLANNER.width", .whole 1⟩],
    .setSystem ⟨.system, "PLANNER.WIDTH", .whole 2⟩]

/-- The one keeps its own width, and the other has that of the bag. -/
theorem answers_twoTenants :
    ((after twoTenants).serve (.find 0 "planner.WIDTH")).1 =
        .found (some ⟨.session, "PLANNER.width", .whole 1⟩) ∧
      ((after twoTenants).serve (.find 1 "planner.WIDTH")).1 =
          .found (some ⟨.system, "PLANNER.WIDTH", .whole 2⟩) ∧
        ((after twoTenants).serve (.count 0)).1 = .counted 1 ∧
          (((after twoTenants).serve (.set 1 ⟨.query, "planner.width", .whole 3⟩)).2.serve
            (.find 0 "planner.WIDTH")).1 =
              ((after twoTenants).serve (.find 0 "planner.WIDTH")).1 := by
  obtain ⟨expected_, apart⟩ := answers_follow twoTenants
  refine ⟨?_, ?_, ?_, ?_⟩
  · rw [expected_]
    rfl
  · rw [expected_]
    rfl
  · rw [expected_]
    rfl
  · exact apart _ (.set 1 _) (.find 0 _) 1 rfl (by decide)

end OptionLayers

end QuerySession
