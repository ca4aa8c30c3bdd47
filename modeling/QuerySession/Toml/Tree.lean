import QuerySession.Json.Basic

/-!
# Trees of settings files

A settings file gives values to dotted keys, under headers that open tables. The tree that arises
remembers how each table came about, since this decides what may still be added to it: a table that
was declared or written in braces is not declared again, and keys do not reach into tables that a
header has opened.

## Main Definitions

* `Toml.Origin` — how a table came about
* `Toml.Value` — the tree
* `Toml.Table.assign?`, `Toml.Table.declare?`, `Toml.Table.append?` — a key, a header, a header of a
  list of tables
* `Toml.Value.toJson` — the tree as a document
-/

namespace QuerySession.Toml

/-- How a table came about. -/
inductive Origin where
  /-- By a header of its own; also the table of the whole file. -/
  | declared
  /-- On the way to the table of a header. -/
  | implied
  /-- On the way to the last part of a dotted key. -/
  | dotted
  /-- In braces. -/
  | inline
  deriving DecidableEq

/-- A value, or a table of values. -/
inductive Value where
  | text (s : String)
  | whole (n : Int)
  | real (x : Binary64)
  /-- A number that is infinite or none. -/
  | limit
  | flag (b : Bool)
  /-- A date, a time or both, in normal form. -/
  | stamp (s : String)
  | list (items : List Value)
  | table (origin : Origin) (members : List (String × Value))
  /-- A list of tables, each opened by a header; the last one first. -/
  | tables (last : Origin × List (String × Value)) (earlier : List Value)
  deriving Inhabited

/-- A table: its origin and members. -/
abbrev Table := Origin × List (String × Value)

/-- The value of the member called `name`. -/
def lookup (name : String) : List (String × Value) → Option Value
  | [] => none
  | (n, v) :: rest => if n = name then some v else lookup name rest

/-- Set the member called `name`, where it stands or behind the others. -/
def store (name : String) (v : Value) : List (String × Value) → List (String × Value)
  | [] => [(name, v)]
  | (n, w) :: rest => if n = name then (name, v) :: rest else (n, w) :: store name v rest

namespace Origin

/-- Whether a table may still be reached by a dotted key. -/
def isOpen : Origin → Bool
  | implied | dotted => true
  | declared | inline => false

end Origin

namespace Table

/-- An empty table. -/
def empty (origin : Origin) : Table := (origin, [])

/-- Change the table that `names` lead to from `t`. Missing tables are made with the origin
`made`; the last of a list of tables stands for the list. A dotted key passes through open tables
only. -/
def alter? (made : Origin) (change : Table → Option Table) : List String → Table → Option Table
  | [], t => change t
  | name :: names, (origin, members) =>
    match lookup name members with
    | none => do
      let (o, ms) ← alter? made change names (empty made)
      some (origin, store name (.table o ms) members)
    | some (.table o ms) =>
      if o = .inline ∨ (made = .dotted ∧ !o.isOpen) then none
      else do
        let (o, ms) ← alter? made change names (o, ms)
        some (origin, store name (.table o ms) members)
    | some (.tables last earlier) => do
      let last ← alter? made change names last
      some (origin, store name (.tables last earlier) members)
    | some _ => none

/-- Give a value to the last part of a dotted key, whose other parts are `path`. -/
def assign? (path : List String) (name : String) (v : Value) : Table → Option Table :=
  alter? .dotted (fun (origin, members) =>
    -- Dotted keys reach into tables of dotted keys only; a plain key stays in its own table.
    if (origin = .dotted) = (path = []) then none
    else if (lookup name members).isSome then none
    else some (origin, members ++ [(name, v)])) path

/-- Open the table called `name` below `path` by a header. -/
def declare? (path : List String) (name : String) : Table → Option Table :=
  alter? .implied (fun (origin, members) =>
    match lookup name members with
    | none => some (origin, members ++ [(name, .table .declared [])])
    | some (.table .implied ms) => some (origin, store name (.table .declared ms) members)
    | some _ => none) path

/-- Open one more table of the list called `name` below `path` by a header. -/
def append? (path : List String) (name : String) : Table → Option Table :=
  alter? .implied (fun (origin, members) =>
    match lookup name members with
    | none => some (origin, members ++ [(name, .tables (empty .declared) [])])
    | some (.tables (o, ms) earlier) =>
      some (origin, store name (.tables (empty .declared) (.table o ms :: earlier)) members)
    | some _ => none) path

/-- Give a value to a dotted key below the table that the header `header` has opened. -/
def assignUnder? (header path : List String) (name : String) (v : Value) : Table → Option Table :=
  alter? .implied (assign? path name v) header

end Table

/-! ### Trees as documents -/

/-- The member under which a date or time stands in a document. -/
def stampMember : String := "$__toml_private_datetime"

/-- Whether a whole number can be passed on. -/
def isPassable (n : Int) : Bool :=
  -0x80000000000000000000000000000000 ≤ n && n < 0x100000000000000000000000000000000

mutual

/-- The tree as a document, unless it holds a number too large to be passed on. -/
def Value.toJson : Value → Option Json
  | .text s => some (.str s)
  | .whole n => if isPassable n then some (.int n) else none
  | .real x => some (.num (.real x))
  | .limit => some (.num (.real (.zero false)))
  | .flag b => some (.bool b)
  | .stamp s => some (.obj [(stampMember, .str s)])
  | .list items => (itemsToJson items).map .arr
  | .table _ members => (membersToJson members).map .obj
  | .tables (_, members) earlier => do
    let last ← membersToJson members
    let items ← itemsToJson earlier
    some (.arr (items.reverse ++ [.obj last]))

/-- The items of a list as documents. -/
def itemsToJson : List Value → Option (List Json)
  | [] => some []
  | v :: vs => do
    let j ← v.toJson
    let js ← itemsToJson vs
    some (j :: js)

/-- The members of a table as documents. -/
def membersToJson : List (String × Value) → Option (List (String × Json))
  | [] => some []
  | (name, v) :: members => do
    let j ← v.toJson
    let js ← membersToJson members
    some ((name, j) :: js)

end

end QuerySession.Toml
