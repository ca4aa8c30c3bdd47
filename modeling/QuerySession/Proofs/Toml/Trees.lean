import QuerySession.Toml.Tree

/-!
# Trees that grow at their end

The lines of a written file add to the newest table only: a key to its members, a header a table
behind them.  Seen from the table of the whole file, the newest table lies at the end of a way along
which every table is the last member of the one before (`plug`).

## Main Definitions

* `Toml.plug` — the members of a table, seen from above

## Main Results

* `Toml.Table.alter?_plug` — a change at the end of the way
* `Toml.Table.declare?_plug`, `Toml.Table.assignUnder?_plug` — a header and a key
-/

namespace QuerySession.Toml

/-- The members of a table. -/
abbrev Members := List (String × Value)

variable {ms ms' : Members} {name : String} {v w : Value} {frames : List (Members × String)}

/-! ## Members behind the others -/

/-- No member has the name. -/
def Fresh (name : String) (ms : Members) : Prop := name ∉ ms.map Prod.fst

theorem lookup_of_fresh (fresh : Fresh name ms) : lookup name ms = none := by
  induction ms with
  | nil => rfl
  | cons m ms ih =>
    obtain ⟨here, rest⟩ := not_or.mp (mt List.mem_cons.mpr fresh)
    rw [lookup, if_neg (Ne.symm here)]
    exact ih rest

theorem lookup_append (fresh : Fresh name ms) (v : Value) :
    lookup name (ms ++ [(name, v)]) = some v := by
  induction ms with
  | nil => exact if_pos rfl
  | cons m ms ih =>
    obtain ⟨here, rest⟩ := not_or.mp (mt List.mem_cons.mpr fresh)
    rw [List.cons_append, lookup, if_neg (Ne.symm here)]
    exact ih rest

theorem store_append (fresh : Fresh name ms) (v w : Value) :
    store name w (ms ++ [(name, v)]) = ms ++ [(name, w)] := by
  induction ms with
  | nil => exact if_pos rfl
  | cons m ms ih =>
    obtain ⟨here, rest⟩ := not_or.mp (mt List.mem_cons.mpr fresh)
    rw [List.cons_append, store, if_neg (Ne.symm here), ih rest]
    rfl

/-! ## The newest table -/

/-- The members of a table, seen from above: the way leads through the tables that stand last,
behind the members that are given for each step. -/
def plug : List (Members × String) → Members → Members
  | [], ms => ms
  | (before, name) :: frames, ms => before ++ [(name, .table .declared (plug frames ms))]

/-- The names along the way. -/
def pathOf (frames : List (Members × String)) : List String := frames.map Prod.snd

/-- No table along the way has the name of a member before it. -/
def Clear (frames : List (Members × String)) : Prop := ∀ f ∈ frames, Fresh f.2 f.1

/-- A table at the end of the way is one step further. -/
theorem plug_concat (frames : List (Members × String)) (before : Members) (name : String)
    (ms : Members) :
    plug (frames ++ [(before, name)]) ms =
      plug frames (before ++ [(name, .table .declared ms)]) := by
  induction frames with
  | nil => rfl
  | cons f frames ih => rw [List.cons_append, plug, plug, ih]

theorem pathOf_concat (frames : List (Members × String)) (before : Members) (name : String) :
    pathOf (frames ++ [(before, name)]) = pathOf frames ++ [name] := List.map_append ..

theorem Clear.concat (clear : Clear frames) (fresh : Fresh name ms) :
    Clear (frames ++ [(ms, name)]) := by
  intro f mem
  rcases List.mem_append.mp mem with old | new
  · exact clear f old
  · rw [List.mem_singleton.mp new]
    exact fresh

namespace Table

/-- **A change of the newest table**, made from above. -/
theorem alter?_plug (clear : Clear frames) {change : Table → Option Table}
    (changed : change (.declared, ms) = some (.declared, ms')) :
    alter? .implied change (pathOf frames) (.declared, plug frames ms) =
      some (.declared, plug frames ms') := by
  induction frames with
  | nil => exact changed
  | cons f frames ih =>
    obtain ⟨before, name⟩ := f
    have fresh : Fresh name before := clear _ List.mem_cons_self
    have below := ih fun f mem => clear f (List.mem_cons_of_mem _ mem)
    show alter? .implied change (name :: pathOf frames)
      (.declared, before ++ [(name, .table .declared (plug frames ms))]) = _
    rw [alter?, lookup_append fresh]
    simp only [reduceCtorEq, false_and, or_self, if_false, below]
    show some (Origin.declared, store name _ _) = _
    rw [store_append fresh]
    rfl

/-- **A header opens a table** behind the members of the newest one. -/
theorem declare?_plug (clear : Clear frames) (fresh : Fresh name ms) :
    declare? (pathOf frames) name (.declared, plug frames ms) =
      some (.declared, plug (frames ++ [(ms, name)]) []) := by
  rw [plug_concat]
  refine alter?_plug clear ?_
  simp only [lookup_of_fresh fresh]

/-- **A key gives a value** behind the members of the newest table. -/
theorem assignUnder?_plug (clear : Clear frames) (fresh : Fresh name ms) (v : Value) :
    assignUnder? (pathOf frames) [] name v (.declared, plug frames ms) =
      some (.declared, plug frames (ms ++ [(name, v)])) := by
  refine alter?_plug clear ?_
  simp [assign?, alter?, lookup_of_fresh fresh]

end Table

/-! ## Documents -/

theorem membersToJson_cons {j : Json} {js : List (String × Json)} (first : v.toJson = some j)
    (others : membersToJson ms = some js) :
    membersToJson ((name, v) :: ms) = some ((name, j) :: js) := by
  rw [membersToJson, first, others]
  rfl

/-- What the document of members is made of. -/
theorem of_membersToJson_cons {js : List (String × Json)}
    (stands : membersToJson ((name, v) :: ms) = some js) :
    ∃ j others, v.toJson = some j ∧ membersToJson ms = some others ∧ js = (name, j) :: others := by
  rw [membersToJson, Option.bind_eq_bind, Option.bind_eq_some_iff] at stands
  obtain ⟨j, first, stands⟩ := stands
  rw [Option.bind_eq_bind, Option.bind_eq_some_iff] at stands
  obtain ⟨others, later, stands⟩ := stands
  exact ⟨j, others, first, later, (Option.some.inj stands).symm⟩

/-- The document of members is made member by member. -/
theorem membersToJson_append {js js' : List (String × Json)}
    (first : membersToJson ms = some js) (second : membersToJson ms' = some js') :
    membersToJson (ms ++ ms') = some (js ++ js') := by
  induction ms generalizing js with
  | nil =>
    cases first
    exact second
  | cons m ms ih =>
    obtain ⟨j, others, here, later, rfl⟩ := of_membersToJson_cons first
    exact membersToJson_cons here (ih later)

/-- The members of a table have the names of those of its document. -/
theorem names_of_membersToJson {js : List (String × Json)} (stands : membersToJson ms = some js) :
    ms.map Prod.fst = js.map Prod.fst := by
  induction ms generalizing js with
  | nil =>
    cases stands
    rfl
  | cons m ms ih =>
    obtain ⟨j, others, here, later, rfl⟩ := of_membersToJson_cons stands
    rw [List.map_cons, List.map_cons, ih later]

end QuerySession.Toml
