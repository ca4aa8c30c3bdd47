import QuerySession.Text.LowerCase
import QuerySession.Text.Split

/-!
# Storage paths

A location on some storage: a scheme, a root within the scheme (a host, a bucket), and the names
leading down from it. Keeping the parts apart leaves no doubt whether two texts denote the same
location; the text `scheme://root/a/b` is only made for display.

## Main Definitions

* `StoragePath` — the path; ordered scheme first, then root, then names
* `StoragePath.make`, `StoragePath.join`, `StoragePath.parent?` — building and walking
* `StoragePath.path`, `StoragePath.toText` — the written forms
-/

namespace QuerySession

/-- A location: names leading down from a root within a scheme. -/
structure StoragePath where
  scheme : String
  root : String
  segments : List String
  deriving DecidableEq, Ord

namespace StoragePath

/-- The top of `root` in `scheme`; schemes are kept in lower case. -/
def make (scheme root : String) : StoragePath := ⟨Text.lowerCase scheme, root, []⟩

/-- The top of the local file system. -/
def localTop : StoragePath := make "file" ""

/-- The names that the text `child` holds between slashes. -/
def pieces (child : String) : List String := (Text.split '/' child).filter (· ≠ "")

/-- Go down along the names in `child`; empty names are skipped. -/
def join (p : StoragePath) (child : String) : StoragePath :=
  { p with segments := p.segments ++ pieces child }

/-- The names written one after another, each behind a slash; a lone slash at the top. -/
def path (p : StoragePath) : String := "/" ++ Text.joinWith '/' p.segments

/-- One name up; there is nothing above the top. -/
def parent? (p : StoragePath) : Option StoragePath :=
  if p.segments = [] then none else some { p with segments := p.segments.dropLast }

/-- The last name. -/
def fileName? (p : StoragePath) : Option String := p.segments.getLast?

/-- The display form. -/
def toText (p : StoragePath) : String := p.scheme ++ "://" ++ p.root ++ p.path

/-- Whether `p` is `q` or lies below it, by whole names within one scheme and root. -/
def atOrBelow (p q : StoragePath) : Bool :=
  p.scheme == q.scheme && p.root == q.root && q.segments.isPrefixOf p.segments

/-- Going down keeps the names so far. -/
@[simp] theorem segments_join (p : StoragePath) (child : String) :
    (p.join child).segments = p.segments ++ pieces child := rfl

/-- There is nothing above a path exactly when it has no names. -/
theorem parent?_eq_none_iff (p : StoragePath) : p.parent? = none ↔ p.segments = [] := by
  simp [parent?]

/-- Every path is at or below itself. -/
@[simp] theorem atOrBelow_self (p : StoragePath) : p.atOrBelow p = true := by
  simp [atOrBelow]

end StoragePath

end QuerySession
