import QuerySession.Toml.Scalar
import QuerySession.Toml.Token

/-!
# Reading settings files

A file is read line by line: a header opens a table, and every other line that is not empty gives a
value to a key of the table opened last. Whatever does not fit makes the whole file unreadable.

## Main Definitions

* `Toml.readValue` — a value
* `Toml.ofText?` — the tree of a whole file

## Design Notes

As for documents, loops are bounded by a count of steps that starts from the length of the text,
and the nesting of lists and tables in braces is limited.
-/

namespace QuerySession.Toml

/-- Lists and tables in braces may be nested this deep. -/
def maxDepth : Nat := 80

/-- Whether `c` ends a value without quotes. -/
def endsScalar (c : Char) : Bool :=
  isSpaceOrLineEnd c || ['#', ',', '=', '[', ']', '\x7b', '\x7d', '"', '\''].contains c

/-- A value without quotes. -/
def readScalar (cs : List Char) : Option (Value × List Char) :=
  let piece (cs : List Char) := (cs.takeWhile (!endsScalar ·), cs.dropWhile (!endsScalar ·))
  let (front, rest) := piece cs
  let (front, rest) := match rest with
    -- A date and a time may stand apart.
    | ' ' :: more =>
      if joinsTime front more then
        let (time, rest) := piece more
        (front ++ ' ' :: time, rest)
      else (front, rest)
    | _ => (front, rest)
  (scalar? front).map fun v => (v, rest)

/-- The items of a list behind its opening bracket; `first` is false behind an item. -/
def readItems (value : List Char → Option (Value × List Char)) :
    (steps : Nat) → (first : Bool) → List Char → Option (List Value × List Char)
  | 0, _, _ => none
  | steps + 1, first, cs =>
    let next (cs : List Char) : Option (List Value × List Char) := do
      let (v, rest) ← value cs
      let (vs, rest) ← readItems value steps false rest
      some (v :: vs, rest)
    match skipLines (cs.length + 1) cs with
    | ']' :: rest => some ([], rest)
    | ',' :: rest =>
      if first then none
      else match skipLines (rest.length + 1) rest with
        | ']' :: rest => some ([], rest)
        | rest => next rest
    | rest => if first then next rest else none

/-- The members of a table in braces behind the opening one; `first` is false behind a member. -/
def readMembers (value : List Char → Option (Value × List Char)) :
    (steps : Nat) → (first : Bool) → Table → List Char → Option (Table × List Char)
  | 0, _, _, _ => none
  | steps + 1, first, t, cs =>
    let next (cs : List Char) : Option (Table × List Char) := do
      let ((path, name), rest) ← readKey (cs.length + 1) cs
      match rest with
      | '=' :: rest =>
        let (v, rest) ← value (skipBlank rest)
        let t ← t.assign? path name v
        readMembers value steps false t rest
      | _ => none
    match skipLines (cs.length + 1) cs with
    | '\x7d' :: rest => some (t, rest)
    | ',' :: rest =>
      if first then none
      else match skipLines (rest.length + 1) rest with
        | '\x7d' :: rest => some (t, rest)
        | rest => next rest
    | rest => if first then next rest else none

/-- A value, without space in front. -/
def readValue : (depth : Nat) → List Char → Option (Value × List Char)
  | depth, '[' :: rest =>
    match depth with
    | 0 => none
    | depth + 1 => (readItems (readValue depth) (rest.length + 1) true rest).map
        fun (vs, rest) => (.list vs, rest)
  | depth, '\x7b' :: rest =>
    match depth with
    | 0 => none
    | depth + 1 => (readMembers (readValue depth) (rest.length + 1) true (.empty .inline) rest).map
        fun ((o, ms), rest) => (.table o ms, rest)
  | _, cs => match readQuoted? cs with
    | some (some (s, rest)) => some (.text (String.ofList s), rest)
    | some none => none
    | none => readScalar cs

/-- What has been read of a file: its tree, and the header of the table opened last. -/
structure Progress where
  table : Table
  header : List String

namespace Progress

/-- Nothing yet. -/
def start : Progress := ⟨.empty .declared, []⟩

/-- Open a table, or one more table of a list. -/
def enter (p : Progress) (list : Bool) (path : List String) (name : String) : Option Progress :=
  (if list then p.table.append? path name else p.table.declare? path name).map fun t =>
    ⟨t, path ++ [name]⟩

/-- Give a value to a key of the table opened last. -/
def assign (p : Progress) (path : List String) (name : String) (v : Value) : Option Progress :=
  (p.table.assignUnder? p.header path name v).map fun t => { p with table := t }

end Progress

/-- A line that is neither empty nor a comment. -/
def readLine (p : Progress) (cs : List Char) : Option (Progress × List Char) :=
  match cs with
  | '[' :: '[' :: rest => do
    let ((path, name), rest) ← readKey (rest.length + 1) rest
    match rest with
    | ']' :: ']' :: rest => (p.enter true path name).map fun p => (p, rest)
    | _ => none
  | '[' :: rest => do
    let ((path, name), rest) ← readKey (rest.length + 1) rest
    match rest with
    | ']' :: rest => (p.enter false path name).map fun p => (p, rest)
    | _ => none
  | cs => do
    let ((path, name), rest) ← readKey (cs.length + 1) cs
    match rest with
    | '=' :: rest =>
      let (v, rest) ← readValue maxDepth (skipBlank rest)
      (p.assign path name v).map fun p => (p, rest)
    | _ => none

/-- All lines, at most `steps` of them. -/
def readLines : (steps : Nat) → Progress → List Char → Option Progress
  | 0, _, _ => none
  | steps + 1, p, cs =>
    match skipLines (cs.length + 1) cs with
    | [] => some p
    | rest => do
      let (p, rest) ← readLine p rest
      let rest ← readRestOfLine rest
      readLines steps p rest

/-- Drop the mark of the byte order in front. -/
def dropMark : List Char → List Char
  | '\ufeff' :: rest => rest
  | cs => cs

/-- The tree of a whole file. -/
def ofText? (s : String) : Option Table :=
  let cs := dropMark s.toList
  (readLines (cs.length + 1) .start cs).map Progress.table

/-- A whole file as a document. -/
def documentOfText? (s : String) : Option Json :=
  (ofText? s).bind fun (o, ms) => (Value.table o ms).toJson

end QuerySession.Toml
