import QuerySession.Error.Basic
import QuerySession.Text.Split

/-!
# Schema trees

Schemas are nested by name below one nameless root. A client names a schema by a dotted path, which
is tried from the current schema first and from the root second.

## Main Definitions

* `SchemaTree` — the nested schemas
* `SchemaNode` — a schema within its tree
* `SchemaNode.canonical` — the dotted path from the root
* `SchemaNode.resolve` — the schema that a client's path denotes

## Main Results

* `SchemaTree.walk_append` — a walk along two paths is two walks
-/

namespace QuerySession

/-- A schema with the schemas below it, by name. -/
inductive SchemaTree where
  | node (children : List (String × SchemaTree))

namespace SchemaTree

/-- The children by name. -/
def children : SchemaTree → List (String × SchemaTree)
  | node children => children

/-- A schema without any below it. -/
def leaf : SchemaTree := node []

/-- The child called `name`. -/
def child? (t : SchemaTree) (name : String) : Option SchemaTree :=
  (t.children.find? (·.1 == name)).map (·.2)

/-- The schema reached along `names`. -/
def walk (t : SchemaTree) : List String → Option SchemaTree
  | [] => some t
  | name :: names => (t.child? name).bind (·.walk names)

/-- A walk along two paths is a walk along the first, then along the second. -/
theorem walk_append (t : SchemaTree) (names more : List String) :
    t.walk (names ++ more) = (t.walk names).bind (·.walk more) := by
  induction names generalizing t with
  | nil => rfl
  | cons name names ih =>
    simp only [List.cons_append, walk]
    cases t.child? name with
    | none => rfl
    | some below => exact ih below

/-- Put `t` in the place of the child called `name`, or behind the others. -/
def putChild (name : String) (t : SchemaTree) :
    List (String × SchemaTree) → List (String × SchemaTree)
  | [] => [(name, t)]
  | (n, c) :: rest => if n = name then (name, t) :: rest else (n, c) :: putChild name t rest

/-- Add whatever is missing along `names`. -/
def extend (t : SchemaTree) : List String → SchemaTree
  | [] => t
  | name :: names => node (putChild name (((t.child? name).getD leaf).extend names) t.children)

/-- The tree of the given paths. -/
def ofPaths (paths : List (List String)) : SchemaTree := paths.foldl extend leaf

end SchemaTree

/-- A schema within its tree. -/
structure SchemaNode where
  tree : SchemaTree
  /-- The names that lead to it from the root. -/
  names : List String
  present : (tree.walk names).isSome = true

namespace SchemaNode

/-- The root of a tree. -/
def top (t : SchemaTree) : SchemaNode := ⟨t, [], rfl⟩

/-- The root of the same tree. -/
def root (n : SchemaNode) : SchemaNode := top n.tree

/-- Whether the schema is the root. -/
def isRoot (n : SchemaNode) : Bool := n.names.isEmpty

/-- The schema's own name; empty for the root. -/
def name (n : SchemaNode) : String := n.names.getLast?.getD ""

/-- The schema reached from here along `names`. -/
def descend? (n : SchemaNode) (names : List String) : Option SchemaNode :=
  if h : (n.tree.walk (n.names ++ names)).isSome = true then some ⟨n.tree, n.names ++ names, h⟩
  else none

/-- The dotted path from the root. -/
def canonical (n : SchemaNode) : String := Text.joinWith '.' n.names

/-- The schema that a dotted path denotes: seen from here if there is one, else from the root. -/
def find? (n : SchemaNode) (path : String) : Option SchemaNode :=
  let names := Text.split '.' path
  (n.descend? names).or (n.root.descend? names)

/-- The schema that a dotted path denotes. -/
def resolve (n : SchemaNode) (path : String) : Except Error SchemaNode :=
  match n.find? path with
  | some found => .ok found
  | none => .error <| .plain (.schemaUnknown path)
      ((((Context.of "schema").during "resolve_schema").noting "current_schema"
        n.canonical).suggesting
          "Use a path relative to the current schema or an absolute path")

end SchemaNode

end QuerySession
