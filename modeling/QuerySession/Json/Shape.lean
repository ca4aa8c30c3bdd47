import QuerySession.Json.Reader

/-!
# Documents of a prescribed form

A shape says what a document has to look like. There are two ways to hold a document against a
shape: reading it from text, where the first fault in reading order decides the class of the
refusal, and comparing a finished tree. Both answer the tree in normal form: a record as an object
with its own members only, a choice as its name.

## Main Definitions

* `Shape` — the prescription
* `Shape.read`, `Shape.ofText` — reading a text of a shape
* `Shape.conform` — the normal form of a tree of a shape
* `Codec` — a shape with the values that its documents stand for

## Design Notes

A record may also be written as the list of its members in order. A choice may be written as an
object whose single member has the chosen name and the value null. Members that a record does not
know are read over; a known member must not occur twice.
-/

namespace QuerySession

/-- What the absence of a record's member means. -/
inductive Presence where
  /-- It is a fault. -/
  | required
  /-- It stands for null, but may not be missing from the list form. -/
  | nullable
  /-- It stands for the default. -/
  | defaulted
  deriving DecidableEq

/-- What a document has to look like. -/
inductive Shape where
  /-- A truth value, number or text, kept as it is. -/
  | scalar
  | flag
  /-- A whole number from `0` to `2 ^ 64 - 1`. -/
  | count
  /-- A text that passes a test. -/
  | text (valid : String → Bool)
  /-- One of the given names. -/
  | choice (names : List String)
  /-- Null, or the inner shape. -/
  | optional (inner : Shape)
  | list (inner : Shape)
  /-- An object with members of any names. -/
  | dict (inner : Shape)
  | record (fields : List (String × Presence × Shape))

/-- A field of a record with the way to read its value. -/
abbrev FieldReader := String × Presence × (List Char → Json.Read Json)

namespace Shape

open Json

/-- The texts, all of them. -/
def anyText : Shape := .text fun _ => true

/-- Whether a tree is a truth value, number or text. -/
def isScalar : Json → Bool
  | .bool _ | .num _ | .str _ => true
  | _ => false

/-- Whether `n` fits into 64 bits without sign. -/
def isCount (n : Int) : Bool := 0 ≤ n && n < 0x10000000000000000

/-! ### Reading -/

/-- The fault of a value that stands where another form is expected: what can be told of it by its
first piece is checked before. -/
def misfit (cs : List Char) : Fault :=
  let after {α : Type} (r : Read α) : Fault := match r with
    | .error e => e
    | .ok _ => .mismatch
  match cs with
  | [] => .malformed
  | 'n' :: rest => after (readWord ['u', 'l', 'l'] rest)
  | 't' :: rest => after (readWord ['r', 'u', 'e'] rest)
  | 'f' :: rest => after (readWord ['a', 'l', 's', 'e'] rest)
  | '-' :: rest => after (readNumber true rest)
  | '"' :: rest => after (readText true rest)
  | '[' :: _ => .mismatch
  | '\x7b' :: _ => .mismatch
  | c :: rest => if c.isDigit then after (readNumber false (c :: rest)) else .malformed

/-- A text, as a value. -/
def readString (cs : List Char) : Read String :=
  match skipSpace cs with
  | [] => .error .truncated
  | '"' :: rest => (readText true rest).map fun (s, rest) => (String.ofList s, rest)
  | cs => .error (misfit cs)

/-- A value that has to pass a test once it was read. -/
def checked (test : Json → Bool) (r : Read Json) : Read Json :=
  match r with
  | .error e => .error e
  | .ok (v, rest) => if test v then .ok (v, rest) else .error .mismatch

/-- A truth value. -/
def readFlag (cs : List Char) : Read Json :=
  match skipSpace cs with
  | [] => .error .truncated
  | 't' :: rest => (readWord ['r', 'u', 'e'] rest).map fun (_, rest) => (.bool true, rest)
  | 'f' :: rest =>
    (readWord ['a', 'l', 's', 'e'] rest).map fun (_, rest) => (.bool false, rest)
  | cs => .error (misfit cs)

/-- Whether a tree is a whole number of 64 bits. -/
def isCountTree : Json → Bool
  | .num (.whole n) => isCount n
  | _ => false

/-- A whole number of 64 bits. -/
def readCount (cs : List Char) : Read Json :=
  match skipSpace cs with
  | [] => .error .truncated
  | '-' :: rest => checked isCountTree (numberToken true true rest)
  | c :: rest =>
    if c.isDigit then checked isCountTree (numberToken true false (c :: rest))
    else .error (misfit (c :: rest))

/-- A name among `names`. -/
def readName (names : List String) (cs : List Char) : Read Json :=
  match readString cs with
  | .error e => .error e
  | .ok (s, rest) => if s ∈ names then .ok (.str s, rest) else .error .mismatch

/-- Read over the word null. -/
def readNull (cs : List Char) : Read Unit :=
  match skipSpace cs with
  | [] => .error .truncated
  | 'n' :: rest => readWord ['u', 'l', 'l'] rest
  | cs => .error (misfit cs)

/-- A choice: a name, or an object that gives null to a name. -/
def readChoice (names : List String) (depth : Nat) (cs : List Char) : Read Json :=
  match skipSpace cs with
  | [] => .error .truncated
  | '"' :: rest => readName names ('"' :: rest)
  | '\x7b' :: rest =>
    if depth ≤ 1 then .error .malformed
    else match readName names rest with
      | .error e => .error e
      | .ok (name, rest) => match readColon rest with
        | .error e => .error e
        | .ok (_, rest) => match readNull rest with
          | .error e => .error e
          | .ok (_, rest) => match skipSpace rest with
            | [] => .error .truncated
            | '\x7d' :: rest => .ok (name, rest)
            | _ => .error .malformed
  | _ => .error .malformed

/-- The members of a record in list form, behind the opening bracket. -/
def readPositional : List FieldReader → (first : Bool) → List Char → Read (List (String × Json))
  | [], _, cs => match skipSpace cs with
    | [] => .error .truncated
    | ']' :: rest => .ok ([], rest)
    | _ => .error .malformed
  | (name, presence, read) :: fields, first, cs =>
    let next (cs : List Char) : Read (List (String × Json)) :=
      match read cs with
      | .error e => .error e
      | .ok (v, rest) =>
        (readPositional fields false rest).map fun (ms, rest) => ((name, v) :: ms, rest)
    match skipSpace cs with
    | [] => .error .truncated
    -- A list that ends early leaves out the members behind.
    | ']' :: rest =>
      if presence = .defaulted then readPositional fields first (']' :: rest)
      else .error .mismatch
    | c :: rest =>
      if first then next (c :: rest)
      else if c = ',' then
        match skipSpace rest with
        | [] => .error .truncated
        | ']' :: _ => .error .malformed
        | rest => next rest
      else .error .malformed

/-- One member of a record in object form. -/
def recordMember (fields : List FieldReader) (found : List (String × Json)) (name : String)
    (cs : List Char) : Read (List (String × Json)) :=
  match fields.find? (·.1 == name) with
  | some (_, _, read) =>
    if found.any (·.1 == name) then .error .mismatch else anyMember read found name cs
  | none => match readColon cs with
    | .error e => .error e
    | .ok (_, rest) => (skipValue rest).map fun (_, rest) => (found, rest)

/-- Whether a member may be absent from an object. -/
def mayBeAbsent (presence : Presence) : Bool := presence != .required

/-- A record, as an object or as a list. -/
def readRecord (fields : List FieldReader) (depth : Nat) (cs : List Char) : Read Json :=
  match skipSpace cs with
  | [] => .error .truncated
  | '[' :: rest =>
    if depth ≤ 1 then .error .malformed
    else (readPositional fields true rest).map fun (ms, rest) => (.obj ms, rest)
  | '\x7b' :: rest =>
    if depth ≤ 1 then .error .malformed
    else match membersWith true (recordMember fields) (stepsFor rest) true [] rest with
      | .error e => .error e
      | .ok (found, rest) =>
        if fields.all fun f => mayBeAbsent f.2.1 || found.any (·.1 == f.1) then
          .ok (.obj found, rest)
        else .error .mismatch
  | cs => .error (misfit cs)

mutual

/-- A value of the given shape. -/
def read : Shape → (depth : Nat) → List Char → Read Json
  | .scalar, depth, cs => checked isScalar (readValue true (stepsFor cs) depth cs)
  | .flag, _, cs => readFlag cs
  | .count, _, cs => readCount cs
  | .text valid, _, cs => checked (fun v => v.str?.any valid)
      ((readString cs).map fun (s, rest) => (.str s, rest))
  | .choice names, depth, cs => readChoice names depth cs
  | .optional inner, depth, cs =>
    match skipSpace cs with
    | 'n' :: rest => (readWord ['u', 'l', 'l'] rest).map fun (_, rest) => (.null, rest)
    | cs => read inner depth cs
  | .list inner, depth, cs =>
    match skipSpace cs with
    | [] => .error .truncated
    | '[' :: rest =>
      if depth ≤ 1 then .error .malformed
      else (itemsWith (read inner (depth - 1)) (stepsFor rest) true rest).map
        fun (items, rest) => (.arr items, rest)
    | cs => .error (misfit cs)
  | .dict inner, depth, cs =>
    match skipSpace cs with
    | [] => .error .truncated
    | '\x7b' :: rest =>
      if depth ≤ 1 then .error .malformed
      else (membersWith true (anyMember (read inner (depth - 1))) (stepsFor rest) true []
        rest).map fun (members, rest) => (.obj members, rest)
    | cs => .error (misfit cs)
  | .record fields, depth, cs => readRecord (readers fields (depth - 1)) depth cs

/-- The fields of a record with the ways to read their values. -/
def readers : List (String × Presence × Shape) → (depth : Nat) → List FieldReader
  | [], _ => []
  | (name, presence, shape) :: fields, depth =>
    (name, presence, read shape depth) :: readers fields depth

end

/-- A whole text as a document of the given shape, in normal form. -/
def ofText (shape : Shape) (s : String) : Except Fault Json := atEnd (read shape maxDepth s.toList)

/-! ### Comparing -/

/-- What a tree may do beyond the rules of a shape. -/
structure Allowance where
  /-- A record in list form may have more items than members. -/
  surplusItems : Bool
  /-- A choice in object form gives an empty list or object, instead of null, to its name. -/
  emptyChoice : Bool

/-- The allowance of documents: none. -/
def Allowance.document : Allowance := ⟨false, false⟩

/-- The allowance of settings files. -/
def Allowance.settings : Allowance := ⟨true, true⟩

/-- Whether a tree may stand behind the name of a choice in object form. -/
def Allowance.behindName (allow : Allowance) : Json → Bool
  | .null => !allow.emptyChoice
  | .arr [] | .obj [] => allow.emptyChoice
  | _ => false

mutual

/-- The normal form of a tree of the given shape. -/
def conform (allow : Allowance) : Shape → Json → Option Json
  | .scalar, v => if isScalar v then some v else none
  | .flag, v => v.bool?.map .bool
  | .count, v => if isCountTree v then some v else none
  | .text valid, v => if v.str?.any valid then some v else none
  | .choice names, v =>
    match v with
    | .str s => if s ∈ names then some (.str s) else none
    | .obj [(s, inner)] => if s ∈ names ∧ allow.behindName inner then some (.str s) else none
    | _ => none
  | .optional inner, v =>
    match v with
    | .null => some .null
    | v => conform allow inner v
  | .list inner, v => v.items?.bind fun items => (items.mapM (conform allow inner)).map .arr
  | .dict inner, v => v.members?.bind fun members =>
      (members.mapM fun m => (conform allow inner m.2).map (m.1, ·)).map .obj
  | .record fields, v =>
    match v with
    | .obj members => (conformNamed allow fields members).map .obj
    | .arr items => (conformPositional allow fields items).map .obj
    | _ => none

/-- The members of a record that are present, in the order of its fields. -/
def conformNamed (allow : Allowance) :
    List (String × Presence × Shape) → List (String × Json) → Option (List (String × Json))
  | [], _ => some []
  | (name, presence, shape) :: fields, members =>
    match members.find? (·.1 == name) with
    | some (_, v) => do
      let v ← conform allow shape v
      let rest ← conformNamed allow fields members
      pure ((name, v) :: rest)
    | none => if mayBeAbsent presence then conformNamed allow fields members else none

/-- The members of a record in list form. -/
def conformPositional (allow : Allowance) :
    List (String × Presence × Shape) → List Json → Option (List (String × Json))
  | [], items => if items.isEmpty || allow.surplusItems then some [] else none
  | (name, _, shape) :: fields, v :: items => do
    let v ← conform allow shape v
    let rest ← conformPositional allow fields items
    pure ((name, v) :: rest)
  | (_, presence, _) :: fields, [] =>
    if presence = .defaulted then conformPositional allow fields [] else none

end

end Shape

/-- A kind of value with the documents that stand for it. `decode` is only asked about trees in
the normal form of `shape`. -/
structure Codec (α : Type) where
  shape : Shape
  decode : Json → Option α
  encode : α → Json

namespace Codec

variable {α : Type}

/-- The value that a text stands for. -/
def ofText (c : Codec α) (s : String) : Except Json.Fault α :=
  match c.shape.ofText s with
  | .error e => .error e
  | .ok v => match c.decode v with
    | some a => .ok a
    | none => .error .mismatch

/-- The value that a tree stands for, under the given allowance. -/
def ofTreeWith (c : Codec α) (allow : Shape.Allowance) (v : Json) : Option α :=
  (c.shape.conform allow v).bind c.decode

/-- The value that a document's tree stands for. -/
def ofTree (c : Codec α) (v : Json) : Option α := c.ofTreeWith .document v

/-- Lists of values. -/
def list (c : Codec α) : Codec (List α) where
  shape := .list c.shape
  decode v := v.items?.bind (·.mapM c.decode)
  encode vs := .arr (vs.map c.encode)

end Codec

end QuerySession
