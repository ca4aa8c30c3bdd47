import QuerySession.Schema.Workspace
import QuerySession.Tables

/-!
# Names in paths

A path goes down by texts, which are cut at slashes, and pieces with nothing in them are skipped.  A
name is a text that comes out of this as it went in: it is not empty and holds no slash.  Ids and
tokens are names, so the alias of a table, made of both, leads down by two.

## Main Definitions

* `IsName` — a text that is one step down
* `StoragePath.InLine` — two paths one of which leads to the other

## Main Results

* `segments_locationOf` — the location of a session lies directly below the root
* `not_inLine_locationOf` — the locations of two sessions are apart
* `parent?_join_alias` — an alias leads to a child of the location of its session
-/

namespace QuerySession

/-- A text that is one step down: not empty, and without a slash. -/
def IsName (text : String) : Prop := text ≠ "" ∧ '/' ∉ text.toList

instance (text : String) : Decidable (IsName text) := inferInstanceAs (Decidable (_ ∧ _))

namespace StoragePath

variable {p q : StoragePath} {name token : String}

/-- A name is one step down. -/
theorem pieces_name (isName : IsName name) : pieces name = [name] := by
  simp [pieces, Text.split_of_not_mem isName.2, isName.1]

/-- A text with a slash inside leads down by both sides. -/
theorem pieces_append_slash (a b : String) : pieces (a ++ "/" ++ b) = pieces a ++ pieces b := by
  have slash : "/" = String.singleton '/' := rfl
  rw [pieces, slash, Text.split_append_sep, List.filter_append]
  rfl

/-- Two names with a slash between are two steps down. -/
theorem pieces_pair (first : IsName name) (second : IsName token) :
    pieces (name ++ "/" ++ token) = [name, token] := by
  rw [pieces_append_slash, pieces_name first, pieces_name second]
  rfl

/-- One of two paths leads to the other, or they are the same. -/
def InLine (p q : StoragePath) : Prop := p.atOrBelow q = true ∨ q.atOrBelow p = true

theorem atOrBelow_iff : p.atOrBelow q = true ↔
    p.scheme = q.scheme ∧ p.root = q.root ∧ q.segments <+: p.segments := by
  simp [atOrBelow, and_assoc]

/-- Where something lies below a path, so does what lies below it. -/
theorem atOrBelow_trans {r : StoragePath} (lower : p.atOrBelow q = true)
    (upper : q.atOrBelow r = true) : p.atOrBelow r = true := by
  rw [atOrBelow_iff] at lower upper ⊢
  exact ⟨lower.1.trans upper.1, lower.2.1.trans upper.2.1, upper.2.2.trans lower.2.2⟩

/-- What is in line with something below a path is in line with the path. -/
theorem InLine.of_below {r : StoragePath} (line : p.InLine q) (below : q.atOrBelow r = true) :
    p.InLine r := by
  rcases line with lower | upper
  · exact .inl (atOrBelow_trans lower below)
  · -- Both lead to one place, so one leads to the other.
    rw [atOrBelow_iff] at upper below
    have scheme := upper.1.symm.trans below.1
    have root := upper.2.1.symm.trans below.2.1
    rcases List.prefix_or_prefix_of_prefix upper.2.2 below.2.2 with first | first
    · exact .inr (atOrBelow_iff.mpr ⟨scheme.symm, root.symm, first⟩)
    · exact .inl (atOrBelow_iff.mpr ⟨scheme, root, first⟩)

end StoragePath

variable {w v : Workspace} {id other token : String}

/-- **The location of a session** lies directly below the root of the workspace. -/
theorem segments_locationOf (isName : IsName id) :
    (w.locationOf id).segments = w.root.segments ++ [id] := by
  rw [Workspace.locationOf, StoragePath.segments_join, StoragePath.pieces_name isName]

/-- The location of a session has the id as its last name. -/
theorem fileName?_locationOf (isName : IsName id) : (w.locationOf id).fileName? = some id := by
  simp [StoragePath.fileName?, segments_locationOf isName]

/-- **Locations of two sessions** are not in line, where no root is below something that is called
as one of the sessions. -/
theorem not_inLine_locationOf (isName : IsName id) (otherIsName : IsName other)
    (distinct : id ≠ other) (free : id ∉ v.root.segments) (otherFree : other ∉ w.root.segments) :
    ¬ (w.locationOf id).InLine (v.locationOf other) := by
  rintro (lower | upper)
  · have names := (StoragePath.atOrBelow_iff.mp lower).2.2.subset
    rw [segments_locationOf isName, segments_locationOf otherIsName] at names
    have mem : other ∈ w.root.segments ++ [id] := names (by simp)
    simp [otherFree, Ne.symm distinct] at mem
  · have names := (StoragePath.atOrBelow_iff.mp upper).2.2.subset
    rw [segments_locationOf isName, segments_locationOf otherIsName] at names
    have mem : id ∈ v.root.segments ++ [other] := names (by simp)
    simp [free, distinct] at mem

/-! ## Tables -/

/-- **An alias leads to a child of the location** of its session, in every workspace. -/
theorem parent?_join_alias (isName : IsName id) (tokenIsName : IsName token) :
    (w.root.join (id ++ "/" ++ token)).parent? = some (w.locationOf id) := by
  simp [StoragePath.parent?, StoragePath.join, Workspace.locationOf,
    StoragePath.pieces_name isName, StoragePath.pieces_pair isName tokenIsName]

/-- The child that an alias leads to is called as its token. -/
theorem fileName?_join_alias (isName : IsName id) (tokenIsName : IsName token) :
    (w.root.join (id ++ "/" ++ token)).fileName? = some token := by
  simp [StoragePath.fileName?, StoragePath.pieces_pair isName tokenIsName]

end QuerySession
