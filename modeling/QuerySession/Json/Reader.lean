import QuerySession.Json.Token
import QuerySession.Keyed

/-!
# Reading documents

Lists and objects are read by two loops that know nothing about what they hold; a value of any form
is read with them here, and values of a prescribed form in `Json.Shape`.

## Main Definitions

* `Json.itemsWith`, `Json.membersWith` — the loops, behind the opening bracket
* `Json.readValue` — a value of any form
* `Json.ofText` — a whole text as a document

## Design Notes

The loops are bounded by a count of steps. Every step reads at least one character, so the length
of the text bounds them; the wrappers start from it. Nesting is limited to `maxDepth` where values
are kept, and not limited where they are only read over.
-/

namespace QuerySession.Json

/-- Lists and objects may be nested this deep, less one. -/
def maxDepth : Nat := 128

/-- The items of a list behind its opening bracket, or behind an item when `first` is false. -/
def itemsWith {α : Type} (item : List Char → Read α) :
    (steps : Nat) → (first : Bool) → List Char → Read (List α)
  | 0, _, _ => .error .malformed
  | steps + 1, first, cs =>
    let next (cs : List Char) : Read (List α) :=
      match item cs with
      | .error e => .error e
      | .ok (v, rest) => (itemsWith item steps false rest).map fun (vs, rest) => (v :: vs, rest)
    match skipSpace cs with
    | [] => .error .truncated
    | ']' :: rest => .ok ([], rest)
    | c :: rest =>
      if first then next (c :: rest)
      else if c = ',' then
        match skipSpace rest with
        | [] => .error .truncated
        | ']' :: _ => .error .malformed
        | rest => next rest
      else .error .malformed

/-- The members of an object behind its opening brace, or behind a member when `first` is false.
`member` gets the members so far, a name, and the text behind the name. -/
def membersWith {σ : Type} (strict : Bool) (member : σ → String → List Char → Read σ) :
    (steps : Nat) → (first : Bool) → σ → List Char → Read σ
  | 0, _, _, _ => .error .malformed
  | steps + 1, first, found, cs =>
    let next (cs : List Char) : Read σ :=
      match readText strict cs with
      | .error e => .error e
      | .ok (name, rest) =>
        match member found (String.ofList name) rest with
        | .error e => .error e
        | .ok (found, rest) => membersWith strict member steps false found rest
    match skipSpace cs with
    | [] => .error .truncated
    | '\x7d' :: rest => .ok (found, rest)
    | c :: rest =>
      if first then
        if c = '"' then next rest else .error .malformed
      else if c = ',' then
        match skipSpace rest with
        | [] => .error .truncated
        | '"' :: rest => next rest
        | _ => .error .malformed
      else .error .malformed

/-- Read over the colon between a name and its value. -/
def readColon (cs : List Char) : Read Unit :=
  match skipSpace cs with
  | [] => .error .truncated
  | ':' :: rest => .ok ((), rest)
  | _ => .error .malformed

/-- A member whose value `value` reads, added behind the members so far. -/
def anyMember (value : List Char → Read Json) (found : List (String × Json)) (name : String)
    (cs : List Char) : Read (List (String × Json)) :=
  match readColon cs with
  | .error e => .error e
  | .ok (_, rest) => (value rest).map fun (v, rest) => (found ++ [(name, v)], rest)

/-- A number behind its sign: kept as a value when `strict`, else only read over. -/
def numberToken (strict negative : Bool) (cs : List Char) : Read Json :=
  if strict then (readNumber negative cs).map fun (n, rest) => (.num n, rest)
  else (readNumeral false negative cs).map fun (_, rest) => (.null, rest)

/-- A value of any form. Of two members of one name the later counts. -/
def readValue (strict : Bool) : (steps depth : Nat) → List Char → Read Json
  | 0, _, _ => .error .malformed
  | steps + 1, depth, cs =>
    match skipSpace cs with
    | [] => .error .truncated
    | 'n' :: rest => (readWord ['u', 'l', 'l'] rest).map fun (_, rest) => (.null, rest)
    | 't' :: rest => (readWord ['r', 'u', 'e'] rest).map fun (_, rest) => (.bool true, rest)
    | 'f' :: rest =>
      (readWord ['a', 'l', 's', 'e'] rest).map fun (_, rest) => (.bool false, rest)
    | '"' :: rest => (readText strict rest).map fun (s, rest) => (.str (String.ofList s), rest)
    | '-' :: rest => numberToken strict true rest
    | '[' :: rest =>
      if depth ≤ 1 then .error .malformed
      else (itemsWith (readValue strict steps (depth - 1)) steps true rest).map
        fun (items, rest) => (.arr items, rest)
    | '\x7b' :: rest =>
      if depth ≤ 1 then .error .malformed
      else (membersWith strict (anyMember (readValue strict steps (depth - 1))) steps true []
        rest).map fun (members, rest) => (.obj (Keyed.ofList members).entries, rest)
    | c :: rest => if c.isDigit then numberToken strict false (c :: rest) else .error .malformed

/-- A number of steps that no reading of `cs` exceeds. -/
def stepsFor (cs : List Char) : Nat := cs.length + 2

/-- Read over a value, whatever it is. -/
def skipValue (cs : List Char) : Read Unit :=
  (readValue false (stepsFor cs) (stepsFor cs) cs).map fun (_, rest) => ((), rest)

/-- Nothing but space may follow a document. -/
def atEnd {α : Type} : Read α → Except Fault α
  | .error e => .error e
  | .ok (v, rest) => if skipSpace rest = [] then .ok v else .error .malformed

/-- A whole text as a document. -/
def ofText (s : String) : Except Fault Json :=
  atEnd (readValue true (stepsFor s.toList) maxDepth s.toList)

end QuerySession.Json
