import Mathlib.Data.List.Induction
import QuerySession.Proofs.Storage.Names

/-!
# Going down and up

A text leads down by the pieces between its slashes that are not empty, and every parent is one name
up again.  So the way down along two texts is the way down along both with a slash between, the way
up undoes it name by name, and the written names of a path lead down to it from the top.

## Main Definitions

* `Text.Cut` — a text is cut into the pieces between its separators
* `StoragePath.Built` — paths that come from a top by going down and up
* `StoragePath.top`, `StoragePath.ascend` — the top above a path, and the way there
* `StoragePath.Navigable` — what is promised of the ways from a path

## Main Results

* `Text.cut_iff` — a text is cut in one way, and this is how it is split
* `StoragePath.join_join` — one way down after another
* `StoragePath.ascend_append` — the way up undoes the way down
* `StoragePath.Built.navigable` — the promise is kept

## Implementation Notes

Which pieces a text has is said without splitting it: they hold no separator, and are the text when
they are joined.
-/

namespace QuerySession

/-! ## Pieces of texts -/

namespace Text

variable {sep : Char} {text : String} {pieces : List String}

/-- A text consists of pieces without separators, with a separator between neighbours. -/
structure Cut (sep : Char) (text : String) (pieces : List String) : Prop where
  some_ : pieces ≠ []
  absent : ∀ piece ∈ pieces, sep ∉ piece.toList
  whole : joinWith sep pieces = text

/-- **A text is cut in one way**, and this is how it is split. -/
theorem cut_iff : Cut sep text pieces ↔ split sep text = pieces := by
  constructor
  · rintro ⟨some_, absent, rfl⟩
    exact split_joinWith some_ absent
  · rintro rfl
    exact ⟨split_ne_nil sep text, fun _ => not_mem_of_mem_split, joinWith_split sep text⟩

end Text

namespace StoragePath

variable {p q : StoragePath} {a name : String} {cut names more : List String}

/-! ## Going down -/

/-- Every step down is a name. -/
theorem isName_of_mem_pieces (mem : name ∈ pieces a) : IsName name := by
  obtain ⟨inside, some_⟩ := List.mem_filter.mp mem
  exact ⟨of_decide_eq_true some_, Text.not_mem_of_mem_split inside⟩

/-- Names that are written one behind the other are the steps down. -/
theorem pieces_joinWith (isName : ∀ name ∈ names, IsName name) :
    pieces (Text.joinWith '/' names) = names := by
  rcases names with _ | ⟨first, others⟩
  · decide
  · rw [pieces, Text.split_joinWith (List.cons_ne_nil _ _) fun name mem => (isName name mem).2]
    exact List.filter_eq_self.mpr fun name mem => decide_eq_true (isName name mem).1

/-- The steps down are the pieces with something in them. -/
theorem pieces_of_cut (isCut : Text.Cut '/' a cut) : pieces a = cut.filter (· ≠ "") := by
  rw [pieces, Text.cut_iff.mp isCut]

/-- **One way down after another** is one way down. -/
theorem join_join (p : StoragePath) (a b : String) :
    (p.join a).join b = p.join (a ++ "/" ++ b) := by
  simp only [join, pieces_append_slash, List.append_assoc]

/-! ## Going up -/

/-- The top above a path: its scheme and root, and no names. -/
def top (p : StoragePath) : StoragePath := ⟨p.scheme, p.root, []⟩

/-- Going up a number of names, if there are as many. -/
def ascend (p : StoragePath) : Nat → Option StoragePath
  | 0 => some p
  | n + 1 => p.parent?.bind (ascend · n)

/-- The path with one more name is a child. -/
theorem parent?_concat (p : StoragePath) (names : List String) (name : String) :
    ({ p with segments := names ++ [name] } : StoragePath).parent? =
      some { p with segments := names } := by
  simp [parent?]

/-- **The way up undoes the way down**, name by name. -/
theorem ascend_append (p : StoragePath) (names more : List String) :
    ({ p with segments := names ++ more } : StoragePath).ascend more.length =
      some { p with segments := names } := by
  induction more using List.reverseRecOn with
  | nil => rw [List.append_nil]; rfl
  | append_singleton more name ih =>
    rw [List.length_append, List.length_singleton, ascend, ← List.append_assoc, parent?_concat]
    exact ih

/-- Every parent has one name less. -/
theorem length_segments_ascend {n : Nat} (above : p.ascend n = some q) :
    q.segments.length + n = p.segments.length := by
  induction n generalizing p with
  | zero =>
    cases above
    rfl
  | succ n ih =>
    obtain ⟨parent, up, above⟩ := Option.bind_eq_some_iff.mp above
    have rest := ih above
    unfold parent? at up
    split at up
    · cases up
    · rename_i some_
      cases up
      have := List.length_pos_iff.mpr some_
      rw [List.length_dropLast] at rest
      omega

/-- The chain of parents comes to the top. -/
theorem ascend_top (p : StoragePath) : p.ascend p.segments.length = some p.top :=
  ascend_append p [] p.segments

/-- The chain of parents ends after all names. -/
theorem ascend_ends_iff {n : Nat} :
    (∃ q, p.ascend n = some q ∧ q.parent? = none) ↔ n = p.segments.length := by
  constructor
  · rintro ⟨q, above, last⟩
    have length := length_segments_ascend above
    rw [(parent?_eq_none_iff q).mp last, List.length_nil, Nat.zero_add] at length
    exact length
  · rintro rfl
    exact ⟨p.top, p.ascend_top, (parent?_eq_none_iff p.top).mpr rfl⟩

/-! ## Paths that are built -/

/-- Paths that come from a top by going down and up. -/
inductive Built : StoragePath → Prop
  | make (scheme root : String) : Built (make scheme root)
  | localTop : Built localTop
  | down {p : StoragePath} (built : Built p) (child : String) : Built (p.join child)
  | up {p q : StoragePath} (built : Built p) (above : p.parent? = some q) : Built q

/-- All that stands in a path are names. -/
theorem Built.isName (built : Built p) : ∀ name ∈ p.segments, IsName name := by
  induction built with
  | make scheme root => simp [StoragePath.make]
  | localTop => simp [StoragePath.localTop, StoragePath.make]
  | @down p built child ih =>
    intro name mem
    rw [segments_join, List.mem_append] at mem
    exact mem.elim (ih name) isName_of_mem_pieces
  | @up p q built above ih =>
    intro name mem
    unfold parent? at above
    split at above
    · cases above
    · cases above
      exact ih name (List.dropLast_subset _ mem)

/-- **The written names of a path lead down to it** from the top. -/
theorem Built.join_path (built : Built p) : p.top.join p.path = p := by
  have down : pieces p.path = p.segments := by
    have front : p.path = "" ++ "/" ++ Text.joinWith '/' p.segments := by
      rw [path, String.empty_append]
    rw [front, pieces_append_slash, pieces_joinWith built.isName]
    rfl
  rw [join, down]
  rfl

/-- What is promised of the ways from a path.  The text `a` is cut into pieces, some of which may be
empty. -/
structure Navigable (p : StoragePath) : Prop where
  /-- All that stands in the path are names. -/
  named : ∀ name ∈ p.segments, name ≠ "" ∧ '/' ∉ name.toList
  /-- One way down after another is one way down. -/
  twice : ∀ a b, (p.join a).join b = p.join (a ++ "/" ++ b)
  /-- The written names lead down from the top. -/
  written : p.top.join p.path = p
  /-- Below one top no other path has the same names written. -/
  alone : ∀ q, Built q → q.scheme = p.scheme → q.root = p.root → q.path = p.path → q = p
  /-- Empty pieces lead nowhere. -/
  stays : ∀ a cut, Text.Cut '/' a cut → (∀ piece ∈ cut, piece = "") → p.join a = p
  /-- The last piece with something in it is the name that is come to. -/
  called : ∀ a cut, Text.Cut '/' a cut → ∀ name, (cut.filter (· ≠ "")).getLast? = some name →
    (p.join a).fileName? = some name
  /-- The way up is as long as the way down, and leads back. -/
  back : ∀ a cut, Text.Cut '/' a cut →
    (p.join a).ascend (cut.filter (· ≠ "")).length = some p
  /-- The chain of parents comes to the top after all names. -/
  risen : p.ascend p.segments.length = some p.top
  /-- Only there it ends. -/
  ends : ∀ n, (∃ q, p.ascend n = some q ∧ q.parent? = none) ↔ n = p.segments.length

/-- **Paths can be gone down and up.** -/
theorem Built.navigable (built : Built p) : p.Navigable where
  named := built.isName
  twice := p.join_join
  written := built.join_path
  alone q other scheme root names := by
    have tops : q.top = p.top := by rw [top, top, scheme, root]
    rw [← other.join_path, tops, names, built.join_path]
  stays a cut isCut empty := by
    have nothing : cut.filter (· ≠ "") = [] := by
      simpa [List.filter_eq_nil_iff] using empty
    rw [join, pieces_of_cut isCut, nothing, List.append_nil]
  called a cut isCut name last := by
    rw [fileName?, segments_join, pieces_of_cut isCut, List.getLast?_append, last]
    rfl
  back a cut isCut := by
    rw [← pieces_of_cut isCut]
    exact ascend_append p p.segments (pieces a)
  risen := p.ascend_top
  ends _ := ascend_ends_iff

/-- A path that was made with slashes in front, in a row and at the end, one name up. -/
theorem navigable_slashes :
    ∃ p, ((make "HDFS" "namenode:8020").join "//tmp//work/").parent? = some p ∧ p.Built ∧
      p.Navigable ∧ p.path = "/tmp" ∧ (p.join "/a//b/").ascend 2 = some p := by
  have built : (⟨"hdfs", "namenode:8020", ["tmp"]⟩ : StoragePath).Built :=
    .up (.down (.make "HDFS" "namenode:8020") "//tmp//work/") (by decide +kernel)
  have cut : Text.Cut '/' "/a//b/" ["", "a", "", "b", ""] := ⟨by decide, by decide, by decide⟩
  exact ⟨_, by decide +kernel, built, built.navigable, by decide, built.navigable.back _ _ cut⟩

end StoragePath

end QuerySession
