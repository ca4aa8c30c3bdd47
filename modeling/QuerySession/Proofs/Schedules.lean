import Mathlib.Data.List.Induction

/-!
# Schedules

Calls that overlap are told as steps, each of which may not be possible; a schedule of steps is run
by `List.foldlM`, and leads somewhere if all of them can be made.  What holds along schedules does
not depend on what the steps are.

## Main Results

* `Schedule.cons` — a schedule from its first step on
* `Schedule.append` — one schedule after the other
* `Schedule.concat_iff` — a schedule up to its last step
* `Schedule.induction` — invariants of schedules
-/

namespace QuerySession.Schedule

variable {State Move : Type} {step : State → Move → Option State} {s t u : State} {m : Move}
  {moves later : List Move}

/-- A schedule goes on from its first step. -/
theorem cons (one : step s m = some t) (rest : moves.foldlM step t = some u) :
    (m :: moves).foldlM step s = some u := by
  rw [List.foldlM_cons, one]
  exact rest

/-- A schedule goes on where another one has led. -/
theorem append (first : moves.foldlM step s = some t) (second : later.foldlM step t = some u) :
    (moves ++ later).foldlM step s = some u := by
  rw [List.foldlM_append, first]
  exact second

/-- A schedule ends with its last step. -/
theorem concat_iff : (moves ++ [m]).foldlM step s = some u ↔
    ∃ t, moves.foldlM step s = some t ∧ step t m = some u := by
  simp [List.foldlM_append, Option.bind_eq_some_iff]

/-- **Invariants of schedules.**  What holds at the start and survives every step holds wherever a
schedule leads. -/
theorem induction {motive : List Move → State → Prop} (start : motive [] s)
    (next : ∀ {moves : List Move} {m : Move} {t u : State}, moves.foldlM step s = some t →
      step t m = some u → motive moves t → motive (moves ++ [m]) u)
    (reached : moves.foldlM step s = some t) : motive moves t := by
  -- The schedule grows at its end, so that what came before it is reached itself.
  induction moves using List.reverseRecOn generalizing t with
  | nil =>
    obtain rfl : s = t := Option.some.inj reached
    exact start
  | append_singleton moves m ih =>
    obtain ⟨before, earlier, one⟩ := concat_iff.mp reached
    exact next earlier one (ih earlier)

end QuerySession.Schedule
