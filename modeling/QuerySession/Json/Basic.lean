import QuerySession.Number.Layout

/-!
# Documents

The tree of a document and its compact written form. Whole numbers and floating-point numbers are
told apart, since an option value keeps the kind in which it was written.

## Main Definitions

* `Json` — the tree; members of an object stay in the order in which they were written
* `Json.write` — the compact text
* `Json.sorted` — the same tree with the members of every object in the order of their names
-/

namespace QuerySession

/-- A number of a document. -/
inductive JsonNumber where
  | whole (n : Int)
  | real (x : Binary64)
  deriving DecidableEq

/-- The tree of a document. -/
inductive Json where
  | null
  | bool (b : Bool)
  | num (n : JsonNumber)
  | str (s : String)
  | arr (items : List Json)
  | obj (members : List (String × Json))
  deriving Inhabited

namespace Json

/-- A whole number. -/
def int (n : Int) : Json := .num (.whole n)

/-- A count. -/
def nat (n : Nat) : Json := int n

/-- A text, or null for none. -/
def strOrNull : Option String → Json
  | some s => .str s
  | none => .null

/-- The member called `name`, if the document is an object that has one. -/
def member? (name : String) : Json → Option Json
  | .obj members => (members.find? (·.1 == name)).map (·.2)
  | _ => none

/-- The text, if the document is one. -/
def str? : Json → Option String
  | .str s => some s
  | _ => none

/-- The truth value, if the document is one. -/
def bool? : Json → Option Bool
  | .bool b => some b
  | _ => none

/-- The whole number, if the document is one. -/
def whole? : Json → Option Int
  | .num (.whole n) => some n
  | _ => none

/-- The items, if the document is a list. -/
def items? : Json → Option (List Json)
  | .arr items => some items
  | _ => none

/-- The members, if the document is an object. -/
def members? : Json → Option (List (String × Json))
  | .obj members => some members
  | _ => none

/-! ### Writing -/

/-- How a character is written inside a text: quotes, backslashes and controls are escaped. -/
def escapeChar (c : Char) : List Char :=
  if c = '"' then ['\\', '"']
  else if c = '\\' then ['\\', '\\']
  else if c = '\n' then ['\\', 'n']
  else if c = '\r' then ['\\', 'r']
  else if c = '\t' then ['\\', 't']
  else if c.toNat = 0x8 then ['\\', 'b']
  else if c.toNat = 0xC then ['\\', 'f']
  else if c.toNat < 0x20 then
    ['\\', 'u', '0', '0', Nat.digitChar (c.toNat / 16), Nat.digitChar (c.toNat % 16)]
  else [c]

/-- A text between quotes. -/
def writeStr (s : String) : String :=
  String.ofList ('"' :: s.toList.flatMap escapeChar ++ ['"'])

/-- A number. -/
def writeNumber : JsonNumber → String
  | .whole n => toString n
  | .real x => x.write .document

mutual

/-- The compact text of a document. -/
def write : Json → String
  | .null => "null"
  | .bool true => "true"
  | .bool false => "false"
  | .num n => writeNumber n
  | .str s => writeStr s
  | .arr items => "[" ++ writeItems items ++ "]"
  | .obj members => "\x7b" ++ writeMembers members ++ "\x7d"

/-- The items of a list, with commas between them. -/
def writeItems : List Json → String
  | [] => ""
  | [item] => write item
  | item :: items => write item ++ "," ++ writeItems items

/-- The members of an object, with commas between them. -/
def writeMembers : List (String × Json) → String
  | [] => ""
  | [(name, value)] => writeStr name ++ ":" ++ write value
  | (name, value) :: members =>
    writeStr name ++ ":" ++ write value ++ "," ++ writeMembers members

end

/-! ### Sorting -/

mutual

/-- The same tree with the members of every object in the order of their names. -/
def sorted : Json → Json
  | .arr items => .arr (sortedItems items)
  | .obj members => .obj ((sortedMembers members).mergeSort fun a b => a.1 ≤ b.1)
  | other => other

/-- Sort inside every item. -/
def sortedItems : List Json → List Json
  | [] => []
  | item :: items => sorted item :: sortedItems items

/-- Sort inside every member. -/
def sortedMembers : List (String × Json) → List (String × Json)
  | [] => []
  | (name, value) :: members => (name, sorted value) :: sortedMembers members

end

end Json

end QuerySession
