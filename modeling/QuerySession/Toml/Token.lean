import QuerySession.Json.Token

/-!
# Pieces of settings files

Space, comments, keys and texts. Texts come in four kinds: between double quotes, where a backslash
escapes, and between single quotes, where nothing does, each on one line or, with the quote written
three times, on several.

## Main Definitions

* `Toml.skipBlank`, `Toml.skipLines` — over space, and over whole lines of it
* `Toml.readKey` — a dotted key
* `Toml.readQuoted?` — a text of any kind
-/

namespace QuerySession.Toml

/-- Whether `c` is space within a line. -/
def isBlank (c : Char) : Bool := c = ' ' || c = '\t'

/-- Drop the space in front. -/
def skipBlank (cs : List Char) : List Char := cs.dropWhile isBlank

/-- Whether `c` may stand in a comment or, quotes apart, in a text on one line. -/
def isPlain (c : Char) : Bool := c = '\t' || (0x20 ≤ c.toNat && c.toNat != 0x7F)

/-- Read over the end of a line. -/
def readLineEnd : List Char → Option (List Char)
  | '\n' :: rest => some rest
  | '\r' :: '\n' :: rest => some rest
  | _ => none

/-- Read over a comment, if there is one, up to the end of its line. -/
def skipComment : List Char → List Char
  | '#' :: rest => rest.dropWhile isPlain
  | cs => cs

/-- Read over the rest of a line that holds nothing more, with its end unless the text ends. -/
def readRestOfLine (cs : List Char) : Option (List Char) :=
  match skipComment (skipBlank cs) with
  | [] => some []
  | rest => readLineEnd rest

/-- Read over space, comments and line ends, in at most `steps` lines. -/
def skipLines : (steps : Nat) → List Char → List Char
  | 0, cs => cs
  | steps + 1, cs =>
    let rest := skipComment (skipBlank cs)
    match readLineEnd rest with
    | some rest => skipLines steps rest
    | none => rest

/-! ### Texts -/

/-- The value of some hexadecimal digits. -/
def hexValue? (ds : List Char) : Option Nat :=
  ds.foldlM (fun n d => (Json.hexValue? d).map (n * 16 + ·)) 0

/-- The character with a code, unless it is half of a surrogate pair or beyond the last. -/
def charOf? (n : Nat) : Option Char :=
  if n < 0xD800 ∨ (0xDFFF < n ∧ n ≤ 0x10FFFF) then some (Char.ofNat n) else none

/-- The character whose code the next `count` digits give. -/
def readCode (count : Nat) (cs : List Char) : Option (Char × List Char) :=
  if cs.length < count then none
  else do
    let n ← hexValue? (cs.take count)
    let c ← charOf? n
    some (c, cs.drop count)

/-- The character that an escape denotes, behind its backslash. -/
def readEscape : List Char → Option (Char × List Char)
  | 'b' :: rest => some ('\x08', rest)
  | 't' :: rest => some ('\t', rest)
  | 'n' :: rest => some ('\n', rest)
  | 'f' :: rest => some ('\x0c', rest)
  | 'r' :: rest => some ('\r', rest)
  | 'e' :: rest => some ('\x1b', rest)
  | '"' :: rest => some ('"', rest)
  | '\\' :: rest => some ('\\', rest)
  | 'x' :: rest => readCode 2 rest
  | 'u' :: rest => readCode 4 rest
  | 'U' :: rest => readCode 8 rest
  | _ => none

/-- Put a character in front of the text that was read. -/
def before (c : Char) : Option (List Char × List Char) → Option (List Char × List Char) :=
  Option.map fun (text, rest) => (c :: text, rest)

/-- A text between double quotes behind the first, in at most `steps` characters. -/
def readBasic : (steps : Nat) → List Char → Option (List Char × List Char)
  | 0, _ => none
  | steps + 1, cs => match cs with
    | [] => none
    | '"' :: rest => some ([], rest)
    | '\\' :: rest => do
      let (c, rest) ← readEscape rest
      before c (readBasic steps rest)
    | c :: rest => if isPlain c then before c (readBasic steps rest) else none

/-- A text between single quotes behind the first. -/
def readLiteral : List Char → Option (List Char × List Char)
  | [] => none
  | '\'' :: rest => some ([], rest)
  | c :: rest => if isPlain c then before c (readLiteral rest) else none

/-- Up to two quotes behind the three that end a text belong to the text. -/
def closing (quote : Char) : List Char → List Char × List Char
  | a :: b :: rest =>
    if a = quote then
      if b = quote then ([quote, quote], rest) else ([quote], b :: rest)
    else ([], a :: b :: rest)
  | [a] => if a = quote then ([quote], []) else ([], [a])
  | [] => ([], [])

/-- Drop the line end that follows the opening quotes directly. -/
def dropFirstLineEnd (cs : List Char) : List Char := (readLineEnd cs).getD cs

/-- Whether `c` is space or ends a line. -/
def isSpaceOrLineEnd (c : Char) : Bool := isBlank c || c = '\n' || c = '\r'

/-- A text between tripled double quotes, behind the first three. A backslash at the end of a line
takes away all space up to the next visible character. -/
def readLongBasic : (steps : Nat) → List Char → Option (List Char × List Char)
  | 0, _ => none
  | steps + 1, cs => match cs with
    | '"' :: '"' :: '"' :: rest => some (closing '"' rest)
    | '\\' :: rest =>
      match readEscape rest with
      | some (c, rest) => before c (readLongBasic steps rest)
      | none => do
        let rest ← readLineEnd (skipBlank rest)
        readLongBasic steps (rest.dropWhile isSpaceOrLineEnd)
    | '\r' :: '\n' :: rest => before '\r' (before '\n' (readLongBasic steps rest))
    | c :: rest =>
      if isPlain c || c = '\n' then before c (readLongBasic steps rest) else none
    | [] => none

/-- A text between tripled single quotes, behind the first three. -/
def readLongLiteral : List Char → Option (List Char × List Char)
  | '\'' :: '\'' :: '\'' :: rest => some (closing '\'' rest)
  | '\r' :: '\n' :: rest => before '\r' (before '\n' (readLongLiteral rest))
  | c :: rest => if isPlain c || c = '\n' then before c (readLongLiteral rest) else none
  | [] => none

/-- A text of any kind; `none` when no quote opens one here. -/
def readQuoted? (cs : List Char) : Option (Option (List Char × List Char)) :=
  match cs with
  | '"' :: '"' :: '"' :: rest =>
    some (readLongBasic (rest.length + 1) (dropFirstLineEnd rest))
  | '"' :: rest => some (readBasic (rest.length + 1) rest)
  | '\'' :: '\'' :: '\'' :: rest => some (readLongLiteral (dropFirstLineEnd rest))
  | '\'' :: rest => some (readLiteral rest)
  | _ => none

/-! ### Keys -/

/-- Whether `c` may stand in a key without quotes. -/
def isBare (c : Char) : Bool := c.isAlphanum || c = '_' || c = '-'

/-- One part of a key. -/
def readKeyPart : List Char → Option (String × List Char)
  | '"' :: rest => (readBasic (rest.length + 1) rest).map fun (s, rest) => (String.ofList s, rest)
  | '\'' :: rest => (readLiteral rest).map fun (s, rest) => (String.ofList s, rest)
  | cs => match cs.takeWhile isBare with
    | [] => none
    | name => some (String.ofList name, cs.dropWhile isBare)

/-- A dotted key, with the space behind it, in at most `steps` parts: the parts but the last, and
the last. -/
def readKey : (steps : Nat) → List Char → Option ((List String × String) × List Char)
  | 0, _ => none
  | steps + 1, cs => do
    let (name, rest) ← readKeyPart (skipBlank cs)
    match skipBlank rest with
    | '.' :: rest =>
      let ((path, last), rest) ← readKey steps rest
      some ((name :: path, last), rest)
    | rest => some (([], name), rest)

end QuerySession.Toml
