import Mathlib.Data.List.Nodup
import QuerySession.Proofs.Keyed
import QuerySession.Proofs.Session

/-!
# Schemas and their paths

A schema is found on the way down from the root, one child after another, and its path is collected
on the way up, one parent after another.  In a tree whose names tell siblings apart and hold no dot
the two ways undo each other: every schema has a path of its own, and is found along it.  What a
client's path denotes is tried from the current schema first, and from the root second; the default
schema is kept as the path from the root, so that it is found again from there.

## Main Definitions

* `SchemaTree.Proper` — names that tell siblings apart, are not empty and hold no dot
* `SchemaTree.follow`, `SchemaNode.StandsAt` — the places of a tree, by which child to take
* `SchemaNode.sub?`, `SchemaNode.parent?` — one step down, and one step up
* `SchemaNode.upward`, `SchemaNode.topmost` — the way up
* `SchemaNode.Denotes` — which schema a client's path denotes
* `SchemaTree.Charted` — what is promised of the paths of a tree

## Main Results

* `SchemaNode.descend?_eq_foldlM`, `SchemaNode.reverse_upward` — the two ways, step by step
* `SchemaTree.Proper.existsUnique_standsAt` — every schema stands at one place
* `SchemaTree.Proper.charted` — the promise is kept
-/

namespace QuerySession

/-! ## Trees -/

namespace SchemaTree

/-- Names tell siblings apart, are not empty and hold no dot. -/
inductive Proper : SchemaTree → Prop
  | node {children : List (String × SchemaTree)} (distinct : (children.map Prod.fst).Nodup)
      (named : ∀ child ∈ children, child.1 ≠ "" ∧ '.' ∉ child.1.toList)
      (inner : ∀ child ∈ children, Proper child.2) : Proper (node children)

/-- What stands at the place that is reached by the given choices of children, and the names on the
way there. -/
def follow (t : SchemaTree) : List Nat → Option (List String × SchemaTree)
  | [] => some ([], t)
  | i :: choices => do
    let (name, child) ← t.children[i]?
    let (names, found) ← child.follow choices
    some (name :: names, found)

variable {t u v : SchemaTree} {name : String} {names : List String} {choices others : List Nat}

/-- A first step, and the rest of the way. -/
theorem follow_cons_eq_some {i : Nat} :
    t.follow (i :: choices) = some (names, u) ↔
      ∃ name child rest, t.children[i]? = some (name, child) ∧
        child.follow choices = some (rest, u) ∧ names = name :: rest := by
  simp only [follow, Option.bind_eq_bind, Option.bind_eq_some_iff, Prod.exists, Option.some.injEq,
    Prod.mk.injEq]
  constructor
  · rintro ⟨name, child, at_, rest, found, there, same, rfl⟩
    exact ⟨name, child, rest, at_, there, same.symm⟩
  · rintro ⟨name, child, rest, at_, there, rfl⟩
    exact ⟨name, child, at_, rest, u, there, rfl, rfl⟩

/-- A child is found by its name where names tell siblings apart. -/
theorem child?_of_getElem? (distinct : (t.children.map Prod.fst).Nodup) {i : Nat}
    (at_ : t.children[i]? = some (name, u)) : t.child? name = some u := by
  unfold child?
  generalize t.children = children at *
  induction children generalizing i with
  | nil => cases at_
  | cons first rest ih =>
    obtain ⟨apart, distinct⟩ := List.nodup_cons.mp distinct
    rcases i with _ | i
    · obtain rfl : first = (name, u) := by simpa using at_
      simp
    · have later : rest[i]? = some (name, u) := by simpa using at_
      have other : (first.1 == name) = false := by
        rw [beq_eq_false_iff_ne]
        intro same
        apply apart
        rw [same]
        exact List.mem_map_of_mem (List.mem_of_getElem? later)
      rw [List.find?_cons, other]
      exact ih distinct later

/-- What is found by a name is a child of that name. -/
theorem mem_children_of_child? (found : t.child? name = some u) : (name, u) ∈ t.children := by
  obtain ⟨⟨other, child⟩, known, rfl⟩ := Option.map_eq_some_iff.mp found
  have same : other = name := by simpa using List.find?_some known
  subst same
  exact List.mem_of_find?_eq_some known

namespace Proper

theorem distinct (proper : t.Proper) : (t.children.map Prod.fst).Nodup := by
  rcases proper with ⟨distinct, -, -⟩
  exact distinct

theorem named (proper : t.Proper) (mem : (name, u) ∈ t.children) :
    name ≠ "" ∧ '.' ∉ name.toList := by
  rcases proper with ⟨-, named, -⟩
  exact named _ mem

theorem child (proper : t.Proper) (mem : (name, u) ∈ t.children) : u.Proper := by
  rcases proper with ⟨-, -, inner⟩
  exact inner _ mem

/-- Every place is reached along the names on the way there. -/
theorem walk_of_follow (proper : t.Proper) (reached : t.follow choices = some (names, u)) :
    t.walk names = some u := by
  induction choices generalizing t names with
  | nil =>
    cases reached
    rfl
  | cons i choices ih =>
    obtain ⟨name, child, rest, at_, there, rfl⟩ := follow_cons_eq_some.mp reached
    rw [walk, child?_of_getElem? proper.distinct at_]
    exact ih (proper.child (List.mem_of_getElem? at_)) there

/-- Different places have different names on the way there. -/
theorem choices_unique (proper : t.Proper) (reached : t.follow choices = some (names, u))
    (reachedToo : t.follow others = some (names, v)) : choices = others := by
  induction choices generalizing t names others with
  | nil =>
    cases reached
    rcases others with _ | ⟨j, others⟩
    · rfl
    · obtain ⟨_, _, _, -, -, absurd_⟩ := follow_cons_eq_some.mp reachedToo
      cases absurd_
  | cons i choices ih =>
    obtain ⟨name, child, rest, at_, there, rfl⟩ := follow_cons_eq_some.mp reached
    rcases others with _ | ⟨j, others⟩
    · cases reachedToo
    · obtain ⟨name', child', rest', at_', there', same⟩ := follow_cons_eq_some.mp reachedToo
      obtain ⟨rfl, rfl⟩ := List.cons.inj same
      -- Siblings of one name are one child.
      have firstStep : i = j := by
        have bound : i < (t.children.map Prod.fst).length := by
          simpa using (List.getElem?_eq_some_iff.mp at_).1
        apply (List.getElem?_inj bound proper.distinct).mp
        rw [List.getElem?_map, List.getElem?_map, at_, at_']
        rfl
      subst firstStep
      cases at_.symm.trans at_'
      rw [ih (proper.child (List.mem_of_getElem? at_)) there there']

/-- The names on a way down are not empty and hold no dot. -/
theorem named_of_walk (proper : t.Proper) (reached : t.walk names = some u) :
    ∀ name ∈ names, name ≠ "" ∧ '.' ∉ name.toList := by
  induction names generalizing t with
  | nil => simp
  | cons first names ih =>
    obtain ⟨child, known, there⟩ := Option.bind_eq_some_iff.mp reached
    have mem := mem_children_of_child? known
    intro name within_
    rcases List.mem_cons.mp within_ with rfl | later
    · exact proper.named mem
    · exact ih (proper.child mem) there name later

end Proper

/-- What is reached along names stands at some place. -/
theorem exists_follow_of_walk (reached : t.walk names = some u) :
    ∃ choices, t.follow choices = some (names, u) := by
  induction names generalizing t with
  | nil =>
    cases reached
    exact ⟨[], rfl⟩
  | cons name names ih =>
    obtain ⟨child, known, there⟩ := Option.bind_eq_some_iff.mp reached
    obtain ⟨choices, found⟩ := ih there
    obtain ⟨i, at_⟩ := List.getElem?_of_mem (mem_children_of_child? known)
    exact ⟨i :: choices, follow_cons_eq_some.mpr ⟨name, child, names, at_, found, rfl⟩⟩

end SchemaTree

/-! ## Schemas -/

namespace SchemaNode

variable {t : SchemaTree} {n m c : SchemaNode} {name path : String} {names : List String}

/-- Schemas of one tree are told apart by the names that lead to them. -/
theorem eq_of_names (sameTree : m.tree = n.tree) (same : m.names = n.names) : m = n := by
  obtain ⟨_, _, _⟩ := m
  obtain ⟨_, _, _⟩ := n
  cases sameTree
  cases same
  rfl

/-! ### One step down, and one step up -/

/-- The child called `name`. -/
def sub? (n : SchemaNode) (name : String) : Option SchemaNode := n.descend? [name]

/-- The way to a schema's parent is there. -/
theorem present_dropLast (n : SchemaNode) : (n.tree.walk n.names.dropLast).isSome = true := by
  rcases List.eq_nil_or_concat n.names with none_ | ⟨above, last, some_⟩
  · rw [none_]
    rfl
  · have whole := n.present
    rw [some_, List.concat_eq_append, SchemaTree.walk_append] at whole
    rw [some_, List.concat_eq_append, List.dropLast_concat]
    exact Option.isSome_of_isSome_bind whole

/-- The parent; the root has none. -/
def parent? (n : SchemaNode) : Option SchemaNode :=
  if n.names = [] then none else some ⟨n.tree, n.names.dropLast, n.present_dropLast⟩

theorem descend?_eq_some_iff {names : List String} :
    n.descend? names = some m ↔ m.tree = n.tree ∧ m.names = n.names ++ names := by
  unfold descend?
  split
  · rename_i there
    constructor
    · intro same
      cases same
      exact ⟨rfl, rfl⟩
    · rintro ⟨sameTree, same⟩
      exact congrArg some (eq_of_names sameTree.symm same.symm)
  · rename_i missing
    constructor
    · rintro ⟨⟩
    · rintro ⟨sameTree, same⟩
      have there := m.present
      rw [sameTree, same] at there
      exact absurd there missing

theorem descend?_nil : n.descend? [] = some n := descend?_eq_some_iff.mpr (by simp)

/-- Going down goes to a child first. -/
theorem descend?_cons : n.descend? (name :: names) = (n.sub? name).bind (·.descend? names) := by
  apply Option.ext
  intro m
  rw [descend?_eq_some_iff, Option.bind_eq_some_iff]
  constructor
  · rintro ⟨sameTree, same⟩
    -- The child on the way is there, since what is below it is.
    have whole := m.present
    rw [sameTree, same, List.append_cons, SchemaTree.walk_append] at whole
    refine ⟨⟨n.tree, n.names ++ [name], Option.isSome_of_isSome_bind whole⟩, ?_, ?_⟩
    · exact descend?_eq_some_iff.mpr ⟨rfl, rfl⟩
    · exact descend?_eq_some_iff.mpr ⟨sameTree, by simp [same]⟩
  · rintro ⟨child, first, rest⟩
    obtain ⟨childTree, childNames⟩ := descend?_eq_some_iff.mp first
    obtain ⟨sameTree, same⟩ := descend?_eq_some_iff.mp rest
    exact ⟨sameTree.trans childTree, by simp [same, childNames]⟩

/-- **The way down** takes one child after another. -/
theorem descend?_eq_foldlM : n.descend? names = names.foldlM sub? n := by
  induction names generalizing n with
  | nil => exact descend?_nil
  | cons name names ih =>
    rw [descend?_cons, List.foldlM_cons]
    exact Option.bind_congr fun child _ => ih

/-- A child of a schema is what has it as its parent, and is found by its name. -/
theorem sub?_eq_some_iff : n.sub? name = some c ↔ c.parent? = some n ∧ c.name = name := by
  rw [sub?, descend?_eq_some_iff, parent?, SchemaNode.name]
  constructor
  · rintro ⟨sameTree, same⟩
    refine ⟨?_, by simp [same]⟩
    rw [if_neg (by simp [same])]
    exact congrArg some (eq_of_names sameTree (by simp [same]))
  · rintro ⟨up, called⟩
    split at up
    · cases up
    · rename_i low
      cases up
      refine ⟨rfl, ?_⟩
      rw [List.getLast?_eq_getLast_of_ne_nil low] at called
      show c.names = c.names.dropLast ++ [name]
      rw [← called]
      exact (List.dropLast_concat_getLast low).symm

/-- The parent is one step higher. -/
theorem length_of_parent? (up : n.parent? = some m) : m.names.length < n.names.length := by
  unfold parent? at up
  split at up
  · cases up
  · rename_i low
    cases up
    have some_ : 0 < n.names.length := List.length_pos_iff.mpr low
    show n.names.dropLast.length < n.names.length
    rw [List.length_dropLast]
    omega

/-! ### The way up -/

/-- The names on the way up, from a schema to below the root. -/
def upward (n : SchemaNode) : List String :=
  match _up : n.parent? with
  | none => []
  | some above => n.name :: above.upward
termination_by n.names.length
decreasing_by exact length_of_parent? _up

/-- The end of the way up. -/
def topmost (n : SchemaNode) : SchemaNode :=
  match _up : n.parent? with
  | none => n
  | some above => above.topmost
termination_by n.names.length
decreasing_by exact length_of_parent? _up

/-- **The way up** passes the names of the way down in the opposite order. -/
theorem reverse_upward (n : SchemaNode) : n.upward.reverse = n.names := by
  fun_induction upward n with
  | case1 n up =>
    rw [parent?] at up
    split at up
    · rename_i high
      exact high.symm
    · cases up
  | case2 n above up ih =>
    obtain ⟨-, same⟩ := descend?_eq_some_iff.mp (sub?_eq_some_iff.mpr ⟨up, rfl⟩)
    rw [List.reverse_cons, ih, same]

/-- The way up ends at the root. -/
theorem topmost_eq (n : SchemaNode) : n.topmost = n.root := by
  fun_induction topmost n with
  | case1 n up =>
    rw [parent?] at up
    split at up
    · rename_i high
      exact eq_of_names rfl high
    · cases up
  | case2 n above up ih =>
    obtain ⟨sameTree, -⟩ := descend?_eq_some_iff.mp (sub?_eq_some_iff.mpr ⟨up, rfl⟩)
    rw [ih]
    exact eq_of_names sameTree.symm rfl

/-- The path of a schema is collected on the way up. -/
theorem canonical_eq (n : SchemaNode) : n.canonical = Text.joinWith '.' n.upward.reverse := by
  rw [reverse_upward, canonical]

/-! ### Places -/

/-- The schema stands at the place that is reached by the given choices of children. -/
def StandsAt (n : SchemaNode) (choices : List Nat) : Prop :=
  ∃ u, n.tree.follow choices = some (n.names, u)

end SchemaNode

/-! ## Paths in proper trees -/

namespace SchemaTree.Proper

open SchemaNode

variable {t : SchemaTree} {n m : SchemaNode} {path : String}

/-- **Every schema stands at one place** of its tree. -/
theorem existsUnique_standsAt (proper : n.tree.Proper) : ∃! choices, n.StandsAt choices := by
  obtain ⟨u, reached⟩ := Option.isSome_iff_exists.mp n.present
  obtain ⟨choices, there⟩ := exists_follow_of_walk reached
  refine ⟨choices, ⟨u, there⟩, ?_⟩
  rintro others ⟨v, too⟩
  exact proper.choices_unique too there

/-- At every place of a tree stands a schema. -/
theorem exists_of_follow (proper : t.Proper) {choices : List Nat} {names : List String}
    {u : SchemaTree} (reached : t.follow choices = some (names, u)) :
    ∃ n : SchemaNode, n.tree = t ∧ n.names = names ∧ n.StandsAt choices := by
  have there := proper.walk_of_follow reached
  exact ⟨⟨t, names, by rw [there]; rfl⟩, rfl, rfl, u, reached⟩

/-- The names that lead to a schema are not empty and hold no dot. -/
theorem named_names (proper : n.tree.Proper) : ∀ name ∈ n.names, name ≠ "" ∧ '.' ∉ name.toList := by
  obtain ⟨u, reached⟩ := Option.isSome_iff_exists.mp n.present
  exact proper.named_of_walk reached

/-- The path of a schema below the root is cut into the names that lead to it. -/
theorem split_canonical (proper : n.tree.Proper) (low : n.names ≠ []) :
    Text.split '.' n.canonical = n.names :=
  Text.split_joinWith low fun name mem => (proper.named_names name mem).2

/-- The path of a schema below the root is not empty. -/
theorem canonical_ne_empty (proper : n.tree.Proper) (low : n.names ≠ []) : n.canonical ≠ "" := by
  intro empty
  have cut := proper.split_canonical low
  rw [empty] at cut
  have mem : "" ∈ n.names := cut ▸ List.mem_singleton.mpr rfl
  exact (proper.named_names "" mem).1 rfl

/-- Every schema below the root is found along its path. -/
theorem descend?_canonical (proper : n.tree.Proper) (low : n.names ≠ []) :
    (top n.tree).descend? (Text.split '.' n.canonical) = some n := by
  rw [proper.split_canonical low]
  exact descend?_eq_some_iff.mpr ⟨rfl, rfl⟩

/-- Different schemas have different paths. -/
theorem eq_of_canonical (proper : m.tree.Proper) (sameTree : m.tree = n.tree)
    (same : m.canonical = n.canonical) : m = n := by
  have properToo : n.tree.Proper := sameTree ▸ proper
  by_cases high : m.names = []
  · by_cases highToo : n.names = []
    · exact eq_of_names sameTree (high.trans highToo.symm)
    · -- Only the root has the empty path.
      have empty : m.canonical = "" := by
        rw [SchemaNode.canonical, high]
        rfl
      exact absurd (same.symm.trans empty) (properToo.canonical_ne_empty highToo)
  · by_cases highToo : n.names = []
    · have empty : n.canonical = "" := by
        rw [SchemaNode.canonical, highToo]
        rfl
      exact absurd (same.trans empty) (proper.canonical_ne_empty high)
    · have found := proper.descend?_canonical high
      rw [same, sameTree, properToo.descend?_canonical highToo] at found
      exact (Option.some.inj found).symm

end SchemaTree.Proper

/-! ## Default schemas -/

namespace SchemaNode

/-- The path denotes the schema, seen from `current`: it leads there from `current`, or nowhere from
`current` and there from the root. -/
def Denotes (current : SchemaNode) (path : String) (n : SchemaNode) : Prop :=
  current.descend? (Text.split '.' path) = some n ∨
    current.descend? (Text.split '.' path) = none ∧
      current.root.descend? (Text.split '.' path) = some n

variable {current n : SchemaNode} {path : String}

/-- A path is tried from the current schema first, and from the root second. -/
theorem find?_eq_some_iff : current.find? path = some n ↔ Denotes current path n := by
  show (current.descend? _).or (current.root.descend? _) = some n ↔ _
  rw [Option.or_eq_some_iff]
  rfl

/-- A path leads nowhere if it leads nowhere from either. -/
theorem find?_eq_none_iff : current.find? path = none ↔
    current.descend? (Text.split '.' path) = none ∧
      current.root.descend? (Text.split '.' path) = none := Option.or_eq_none_iff

/-- What a path denotes is a schema of the same tree, below the root. -/
theorem Denotes.low (denotes : Denotes current path n) : n.tree = current.tree ∧ n.names ≠ [] := by
  have some_ := Text.split_ne_nil '.' path
  rcases denotes with here | ⟨-, there⟩
  · obtain ⟨sameTree, same⟩ := descend?_eq_some_iff.mp here
    exact ⟨sameTree, by simp [same, some_]⟩
  · obtain ⟨sameTree, same⟩ := descend?_eq_some_iff.mp there
    exact ⟨sameTree, by simp [same, some_]⟩

/-- A path is resolved to what it denotes. -/
theorem resolve_eq_ok_iff : current.resolve path = .ok n ↔ Denotes current path n := by
  rw [← find?_eq_some_iff, resolve]
  rcases found : current.find? path with _ | m <;> simp

/-- A path that leads nowhere is refused. -/
theorem exists_resolve_eq_error_iff : (∃ e, current.resolve path = .error e) ↔
    current.descend? (Text.split '.' path) = none ∧
      current.root.descend? (Text.split '.' path) = none := by
  rw [← find?_eq_none_iff, resolve]
  rcases found : current.find? path with _ | m <;> simp

end SchemaNode

/-- A property that is written twice might as well be written once. -/
theorem Properties.set_set (p : Properties) (name value : String) :
    (p.set name value).set name value = p.set name value := by
  have there : (p.values.put (Text.lowerCase name) value).find? (Text.lowerCase name) =
      some value := (Keyed.find?_put ..).trans (if_pos rfl)
  exact congrArg Properties.mk (Keyed.put_of_found there)

namespace Session

variable {σ : Type} {s s' : Session} {path : String} {current n : SchemaNode} {spans : List String}
  {scene after : Scene σ}

/-- A default schema is set exactly when the path denotes one. -/
theorem setDefaultSchema_answer (s : Session) (path : String) (current : SchemaNode)
    (spans : List String) (scene : Scene σ) :
    ((s.setDefaultSchema path current) spans scene).1.1 =
      match current.resolve path with
      | .error e => .error e
      | .ok _ => .ok () := by
  unfold setDefaultSchema
  rcases current.resolve path with e | node <;> rfl

/-- The path of the default schema after one was set. -/
theorem defaultSchemaPath_set (s : Session) (path : String) :
    ({ s with properties := s.properties.set Properties.schema path } : Session).defaultSchemaPath =
      path := by
  rw [defaultSchemaPath, Properties.findD, Properties.find?_set, if_pos rfl, Option.getD_some]

/-- The default schema after one was set is the one that its path leads to from the root. -/
theorem defaultSchema?_set (s : Session) (root : SchemaNode) {path : String} (some_ : path ≠ "") :
    ({ s with properties := s.properties.set Properties.schema path } : Session).defaultSchema?
      root = root.descend? (Text.split '.' path) := by
  rw [defaultSchema?, defaultSchemaPath_set, if_neg some_]

/-- What is promised of a session when its default schema is set, by what was answered and the
session afterwards. -/
structure Defaults (current : SchemaNode) (path : String) (answer : Except Error Unit)
    (s' : Session) : Prop where
  /-- A path is refused exactly if it leads nowhere, neither from the current schema nor from the
  root. -/
  refused : (∃ e, answer = .error e) ↔
    current.descend? (Text.split '.' path) = none ∧
      current.root.descend? (Text.split '.' path) = none
  /-- Otherwise the default schema is the one that the path denotes. -/
  kept : answer = .ok () → ∃ n, current.Denotes path n ∧ s'.defaultSchema? current.root = some n ∧
    s'.defaultSchemaPath = n.canonical
  /-- Its path may be set again, seen from the root. -/
  again : answer = .ok () → ∀ (τ : Type) (spans : List String) (scene : Scene τ),
    ((s'.setDefaultSchema s'.defaultSchemaPath current.root) spans scene).1 = (.ok (), s')

/-- **The default schema is what the path denotes.** -/
theorem setDefaultSchema_defaults (s : Session) (proper : current.tree.Proper) (path : String)
    (spans : List String) (scene : Scene σ) :
    Defaults current path ((s.setDefaultSchema path current) spans scene).1.1
      ((s.setDefaultSchema path current) spans scene).1.2 := by
  rw [setDefaultSchema_answer, setDefaultSchema_left]
  rcases resolved : current.resolve path with e | n
  · refine ⟨?_, by rintro ⟨⟩, by rintro ⟨⟩⟩
    rw [← SchemaNode.exists_resolve_eq_error_iff, resolved]
    simp
  · have denotes := SchemaNode.resolve_eq_ok_iff.mp resolved
    obtain ⟨sameTree, low⟩ := denotes.low
    have properToo : n.tree.Proper := sameTree ▸ proper
    have found : current.root.descend? (Text.split '.' n.canonical) = some n := by
      rw [SchemaNode.root, ← sameTree]
      exact properToo.descend?_canonical low
    refine ⟨?_, fun _ => ⟨n, denotes, ?_, ?_⟩, fun _ τ spans scene => ?_⟩
    · rw [← SchemaNode.exists_resolve_eq_error_iff, resolved]
      simp
    · rw [defaultSchema?_set s _ (properToo.canonical_ne_empty low), found]
    · exact defaultSchemaPath_set s n.canonical
    · -- Seen from the root, the path denotes the same schema.
      have resolvedAgain : current.root.resolve n.canonical = .ok n :=
        SchemaNode.resolve_eq_ok_iff.mpr (.inl found)
      rw [defaultSchemaPath_set]
      apply Prod.ext
      · rw [setDefaultSchema_answer, resolvedAgain]
      · rw [setDefaultSchema_left, resolvedAgain]
        simp only [Properties.set_set]

end Session

/-! ## The promise -/

/-- What is promised of the paths of a tree. -/
structure SchemaTree.Charted (t : SchemaTree) : Prop where
  /-- At every place stands one schema. -/
  placed : ∀ choices names u, t.follow choices = some (names, u) →
    ∃! n : SchemaNode, n.tree = t ∧ n.StandsAt choices
  /-- Every schema stands at one place. -/
  stands : ∀ n : SchemaNode, n.tree = t → ∃! choices, n.StandsAt choices
  /-- A child is what has the schema as its parent, and is found by its name. -/
  steps : ∀ (n c : SchemaNode) (name : String), n.tree = t →
    (n.sub? name = some c ↔ c.parent? = some n ∧ c.name = name)
  /-- The way down takes one child after another. -/
  descends : ∀ (n : SchemaNode) (names : List String), n.tree = t →
    n.descend? names = names.foldlM SchemaNode.sub? n
  /-- The path is collected on the way up, which ends at the root. -/
  ascends : ∀ n : SchemaNode, n.tree = t →
    n.canonical = Text.joinWith '.' n.upward.reverse ∧ n.root = n.topmost
  /-- Every schema below the root is found along its path. -/
  found : ∀ n : SchemaNode, n.tree = t → n.isRoot = false →
    (SchemaNode.top t).descend? (Text.split '.' n.canonical) = some n
  /-- Different schemas have different paths. -/
  apart : ∀ m n : SchemaNode, m.tree = t → n.tree = t → m.canonical = n.canonical → m = n
  /-- The default schema of every session is what a path denotes. -/
  defaults : ∀ (σ : Type) (s : Session) (path : String) (current : SchemaNode)
    (spans : List String) (scene : Scene σ), current.tree = t →
      Session.Defaults current path ((s.setDefaultSchema path current) spans scene).1.1
        ((s.setDefaultSchema path current) spans scene).1.2

/-- **Paths of schemas are read back.**  In a tree with proper names the promise is kept. -/
theorem SchemaTree.Proper.charted {t : SchemaTree} (proper : t.Proper) : t.Charted where
  placed := by
    intro choices names u reached
    obtain ⟨n, rfl, rfl, there⟩ := proper.exists_of_follow reached
    refine ⟨n, ⟨rfl, there⟩, ?_⟩
    rintro m ⟨sameTree, v, too⟩
    apply SchemaNode.eq_of_names sameTree
    rw [sameTree, reached] at too
    exact (congrArg Prod.fst (Option.some.inj too)).symm
  stands := by
    rintro n rfl
    exact proper.existsUnique_standsAt
  steps := fun n c name _ => SchemaNode.sub?_eq_some_iff
  descends := fun n names _ => SchemaNode.descend?_eq_foldlM
  ascends := fun n _ => ⟨n.canonical_eq, n.topmost_eq.symm⟩
  found := by
    rintro n rfl low
    exact proper.descend?_canonical (by simpa [SchemaNode.isRoot] using low)
  apart := by
    rintro m n rfl sameTree same
    exact proper.eq_of_canonical sameTree.symm same
  defaults := by
    rintro σ s path current spans scene rfl
    exact s.setDefaultSchema_defaults proper path spans scene

/-- Two schemas are called `tmp`, one of them below `dfs`. -/
def SchemaTree.twice : SchemaTree := .node [("dfs", .node [("tmp", .leaf)]), ("tmp", .leaf)]

/-- Seen from `dfs`, the path `tmp` denotes the one below it, which is kept by its path from the
root. -/
theorem charted_twice : SchemaTree.twice.Proper ∧ SchemaTree.twice.Charted ∧
    ∀ (s : Session) (scene : Scene Unit),
      ((s.setDefaultSchema "tmp" ⟨SchemaTree.twice, ["dfs"], rfl⟩) [] scene).1.2.defaultSchemaPath =
        "dfs.tmp" := by
  have leaf : SchemaTree.leaf.Proper := .node .nil (by simp) (by simp)
  have inner : (SchemaTree.node [("tmp", .leaf)]).Proper :=
    .node (by decide) (by decide) (by simpa using leaf)
  have proper : SchemaTree.twice.Proper :=
    .node (by decide) (by decide) (by simpa using ⟨inner, leaf⟩)
  refine ⟨proper, proper.charted, fun s scene => ?_⟩
  have resolved : (⟨SchemaTree.twice, ["dfs"], rfl⟩ : SchemaNode).resolve "tmp" =
      .ok ⟨SchemaTree.twice, ["dfs", "tmp"], rfl⟩ := rfl
  rw [Session.setDefaultSchema_left, resolved]
  exact Session.defaultSchemaPath_set s "dfs.tmp"

end QuerySession
