import QuerySession.Proofs.Parts

/-!
# Connection properties are filtered

Of the pairs that a client sends those with a recognised name are kept, under its lower-casing, and of
several values the last one counts.  Pairs with other names could as well not have been sent, and
neighbours with different names may change places.  In the session that is made of the properties only
the default schema ever changes, so that its names stay recognised and all other values stay those that
the client sent.

## Main Definitions

* `Properties.Closed` — only recognised names have values
* `Properties.Agree` — two collections answer alike
* `Session.MadeOf` — a session that was built or established from a request
* `Properties.Filtered` — what is promised of the pairs that were sent

## Main Results

* `Properties.find?_values_ofPairs` — the stored values
* `Properties.closed_left` — every call keeps the names recognised
* `Properties.ofPairs_filtered` — the promise is kept
-/

namespace QuerySession

namespace Properties

variable {pairs : List (String × String)} {p q : Properties} {key name : String}

/-! ## What is stored -/

theorem isRecognised_iff : isRecognised name = true ↔ Text.lowerCase name ∈ recognised :=
  List.contains_iff_mem

/-- **The stored values**: the last that came for a recognised name, in any letter case. -/
theorem find?_values_ofPairs (pairs : List (String × String)) (key : String) :
    (ofPairs pairs).values.find? key = if key ∈ recognised then last? pairs key else none := by
  induction pairs using List.reverseRecOn with
  | nil => exact (ite_self _).symm
  | append_singleton pairs pair ih =>
    rw [ofPairs_concat, take, last?_concat]
    by_cases known : isRecognised pair.1 = true
    · rw [if_pos known, set, Keyed.find?_put, ih]
      by_cases same : Text.lowerCase pair.1 = key
      · rw [if_pos same, if_pos same, if_pos (same ▸ isRecognised_iff.mp known)]
      · rw [if_neg same, if_neg same]
    · rw [if_neg known, ih]
      by_cases same : Text.lowerCase pair.1 = key
      · have unknown : key ∉ recognised := same ▸ mt isRecognised_iff.mpr known
        rw [if_neg unknown, if_neg unknown]
      · rw [if_neg same]

/-- A value came for a name that some pair has. -/
theorem isSome_last?_iff : (last? pairs key).isSome = true ↔
    key ∈ pairs.map fun pair => Text.lowerCase pair.1 := by
  rw [last?, Option.isSome_map, List.getLast?_isSome, ne_eq, List.filter_eq_nil_iff]
  simp

/-- As many properties are stored as there are recognised names among the pairs. -/
theorem size_ofPairs (pairs : List (String × String)) : (ofPairs pairs).size =
    ((pairs.map fun pair => Text.lowerCase pair.1).filter (· ∈ recognised)).dedup.length := by
  refine Keyed.size_eq_length_dedup fun key => ?_
  rw [find?_values_ofPairs, List.mem_filter, decide_eq_true_iff]
  by_cases known : key ∈ recognised
  · rw [if_pos known, isSome_last?_iff, and_iff_left known]
  · rw [if_neg known]
    exact iff_of_false (by simp) fun both => known both.2

/-! ## Pairs that do not matter -/

/-- Pairs that are not recognised could as well not have been sent. -/
theorem ofPairs_filter (pairs : List (String × String)) :
    ofPairs (pairs.filter fun pair => isRecognised pair.1) = ofPairs pairs := by
  induction pairs using List.reverseRecOn with
  | nil => rfl
  | append_singleton pairs pair ih =>
    rw [List.filter_append, List.filter_cons, List.filter_nil, ofPairs_concat, take]
    by_cases known : isRecognised pair.1 = true
    · rw [if_pos known, if_pos known, ofPairs_concat, ih, take, if_pos known]
    · rw [if_neg known, if_neg known, List.append_nil, ih]

/-- The order of neighbours with different names does not matter to what came last for a name. -/
theorem last?_swap (before after : List (String × String)) {a b : String × String}
    (apart : Text.lowerCase a.1 ≠ Text.lowerCase b.1) (key : String) :
    last? (before ++ b :: a :: after) key = last? (before ++ a :: b :: after) key := by
  simp only [last?, List.filter_append, List.filter_cons, decide_eq_true_iff]
  by_cases first : Text.lowerCase a.1 = key
  · have second : Text.lowerCase b.1 ≠ key := fun same => apart (first.trans same.symm)
    simp only [first, second, if_true, if_false]
  · simp only [first, if_false]

/-! ## Answers -/

/-- Two collections of properties answer alike. -/
structure Agree (p q : Properties) : Prop where
  find? : ∀ name, p.find? name = q.find? name
  findD : ∀ name, p.findD name = q.findD name
  contains : ∀ name, p.contains name = q.contains name
  size : p.size = q.size
  isEmpty : p.isEmpty = q.isEmpty
  snapshot : ∀ key, p.snapshot.find? key = q.snapshot.find? key

/-- What the snapshot has for a key. -/
theorem find?_snapshot (p : Properties) (key : String) :
    p.snapshot.find? key = if key ≠ password then p.values.find? key else none := by
  have looked := p.values.find?_filter_key (fun k => decide (k ≠ password)) key
  exact looked.trans (if_congr decide_eq_true_iff rfl rfl)

theorem agree_of_find? (same : ∀ key, p.values.find? key = q.values.find? key) : Agree p q := by
  have find?_eq (name : String) : p.find? name = q.find? name := same _
  have size_eq : p.size = q.size := by
    have all (key : String) : (p.values.find? key).isSome = true ↔ key ∈ q.values.keys := by
      rw [same, Keyed.mem_keys_iff]
    have distinct : q.values.keys.dedup = q.values.keys := q.values.distinct.dedup
    rw [size, Keyed.size_eq_length_dedup all, distinct]
    exact List.length_map _
  refine ⟨find?_eq, fun name => ?_, fun name => ?_, size_eq, ?_, fun key => ?_⟩
  · rw [findD, find?_eq, findD]
  · rw [contains, find?_eq, contains]
  · rw [isEmpty, isEmpty, Keyed.isEmpty, Keyed.isEmpty, Bool.eq_iff_iff, List.isEmpty_iff_length_eq_zero,
      List.isEmpty_iff_length_eq_zero]
    exact Eq.congr_left size_eq
  · rw [find?_snapshot, same, find?_snapshot]

/-! ## Sessions -/

/-- Only recognised names have values. -/
def Closed (p : Properties) : Prop := ∀ key ∈ p.values.keys, key ∈ recognised

theorem closed_ofPairs (pairs : List (String × String)) : (ofPairs pairs).Closed := by
  intro key mem
  rw [Keyed.mem_keys_iff, find?_values_ofPairs] at mem
  by_contra unknown
  rw [if_neg unknown] at mem
  cases mem

theorem Closed.set (closed : p.Closed) (known : isRecognised name = true) (value : String) :
    (p.set name value).Closed := by
  intro key mem
  rw [Keyed.mem_keys_iff, Properties.set, Keyed.find?_put] at mem
  by_cases same : Text.lowerCase name = key
  · exact same ▸ isRecognised_iff.mp known
  · rw [if_neg same] at mem
    exact closed key (Keyed.mem_keys_iff.mpr mem)

/-- **Every call on a session keeps** its names recognised. -/
theorem closed_left {σ : Type} (s : Session) (call : Session.Call σ) (answer : Option Bool)
    (closed : s.properties.Closed) : (s.left call answer).properties.Closed := by
  rcases s.properties_left call answer with same | ⟨path, set⟩
  · rwa [same]
  · rw [set]
    exact closed.set (by decide) path

end Properties

namespace Session

variable {σ : Type} {providers : Providers σ} {r : SessionRequest} {s : Session}

/-- A session was built from a request, or was established from it. -/
inductive MadeOf (providers : Providers σ) (r : SessionRequest) (s : Session) : Prop
  | built (id : String) (spans : List String) (scene after : Scene σ)
      (done : (build r id).outcome spans scene = (.ok s, after))
  | established (e : Establisher) (id : String) (spans : List String) (scene after : Scene σ)
      (done : (e.establish providers r id).outcome spans scene = (.ok s, after))

/-- Its properties are those that the client sent. -/
theorem MadeOf.properties_eq (made : MadeOf providers r s) :
    s.properties = .ofPairs r.properties := by
  cases made with
  | built id spans scene after done =>
    obtain ⟨credentials, -, rfl⟩ := build_ok done
    rfl
  | established e id spans scene after done =>
    obtain ⟨connected, attributes, -, rfl⟩ := Establisher.establish_settled done
    rw [Establisher.settled_eq]
    show Properties.ofPairs (e.accepting r).properties = _
    rw [Establisher.properties_accepting]

end Session

namespace Properties

/-- What is promised of the pairs that a client sent. -/
structure Filtered {σ : Type} (storages : Storages σ) (workspaces : Workspaces σ)
    (providers : Providers σ) (pairs : List (String × String)) : Prop where
  /-- The last value of a recognised name counts, in any letter case; others have none. -/
  last : ∀ name, (ofPairs pairs).find? name =
    if Text.lowerCase name ∈ recognised then last? pairs (Text.lowerCase name) else none
  /-- There are as many as there are different recognised names. -/
  size : (ofPairs pairs).size =
    ((pairs.map fun pair => Text.lowerCase pair.1).filter (· ∈ recognised)).dedup.length
  /-- The snapshot has what is stored, but for the password. -/
  snapshot : ∀ key value, (key, value) ∈ (ofPairs pairs).snapshot.entries ↔
    (key, value) ∈ (ofPairs pairs).values.entries ∧ key ≠ password
  /-- Pairs that are not recognised may be put in anywhere. -/
  inserted : ∀ more : List (String × String),
    more.filter (fun pair => isRecognised pair.1) = pairs.filter (fun pair => isRecognised pair.1) →
      Agree (ofPairs more) (ofPairs pairs)
  /-- Neighbours with different names may change places. -/
  swapped : ∀ before a b after, pairs = before ++ a :: b :: after →
    Text.lowerCase a.1 ≠ Text.lowerCase b.1 →
      Agree (ofPairs (before ++ b :: a :: after)) (ofPairs pairs)
  /-- Whatever is asked of a session that is made of them, only recognised names have values, and all
  but the default schema have those that were sent. -/
  session : ∀ (r : SessionRequest) (s : Session), r.properties = pairs → s.MadeOf providers r →
    ∀ (calls : List (Session.Call σ)) spans (scene : Scene σ),
      let p := ((s.run storages workspaces calls) spans scene).1.properties
      p.Closed ∧ (∀ name, Text.lowerCase name ≠ schema → p.find? name = (ofPairs pairs).find? name) ∧
        p.find? user = (ofPairs pairs).find? user ∧
          p.find? password = (ofPairs pairs).find? password ∧
            p.find? impersonationTarget = (ofPairs pairs).find? impersonationTarget

/-- **Connection properties are filtered**, whatever the client sends: the promise is kept. -/
theorem ofPairs_filtered {σ : Type} (storages : Storages σ) (workspaces : Workspaces σ)
    (providers : Providers σ) (pairs : List (String × String)) :
    Filtered storages workspaces providers pairs where
  last name := find?_values_ofPairs pairs _
  size := size_ofPairs pairs
  snapshot key value := by
    rw [snapshot, Keyed.filter, List.mem_filter, decide_eq_true_iff]
  inserted more same := by
    rw [← ofPairs_filter more, same, ofPairs_filter]
    exact agree_of_find? fun key => rfl
  swapped before a b after split apart := by
    refine agree_of_find? fun key => ?_
    rw [find?_values_ofPairs, find?_values_ofPairs, split, last?_swap before after apart]
  session r s sent made calls spans scene := by
    intro p
    have start : s.properties = ofPairs pairs := sent ▸ made.properties_eq
    have closed : p.Closed := Session.run_invariant closed_left (start ▸ closed_ofPairs pairs) storages
      workspaces calls spans scene
    have kept (name : String) (other : Text.lowerCase name ≠ schema) :
        p.find? name = (ofPairs pairs).find? name := by
      have same := (Session.run_kept storages workspaces s calls spans scene).properties name other
      rwa [start] at same
    exact ⟨closed, kept, kept user (by decide), kept password (by decide),
      kept impersonationTarget (by decide)⟩

/-- A user in two spellings, a password, and something unknown. -/
def mixed : List (String × String) :=
  [("User", "alice"), ("bogus", "x"), ("PASSWORD", "pw"), ("user", "bob")]

/-- The user who came last counts, and is still there in a session after some calls. -/
theorem ofPairs_filtered_mixed : (ofPairs mixed).size = 2 ∧
    (ofPairs mixed).find? "USER" = some "bob" ∧
      Agree (ofPairs [("User", "alice"), ("PASSWORD", "pw"), ("bogus", "x"), ("user", "bob")])
        (ofPairs mixed) ∧
        ∃ s : Session, s.MadeOf World.providers ⟨some ⟨"u"⟩, mixed, false, false, none, []⟩ ∧
          let p := ((s.run (World.storages []) World.workspaces [.submit "q", .close]) []
            ⟨World.on .empty, []⟩).1.properties
          p.Closed ∧ p.find? user = some "bob" := by
  have filtered := ofPairs_filtered (World.storages []) World.workspaces World.providers mixed
  have made : (Session.ofRequest ⟨some ⟨"u"⟩, mixed, false, false, none, []⟩ "s" ⟨"u"⟩).MadeOf
      World.providers ⟨some ⟨"u"⟩, mixed, false, false, none, []⟩ :=
    .built "s" [] ⟨World.on .empty, []⟩ _ rfl
  obtain ⟨closed, -, kept, -⟩ := filtered.session _ _ rfl made [.submit "q", .close] []
    ⟨World.on .empty, []⟩
  exact ⟨filtered.size, filtered.last "USER", filtered.swapped [("User", "alice")] _ _ _ rfl
    (by decide), _, made, closed, kept⟩

end Properties

end QuerySession
