import QuerySession.Json.Basic

/-!
# Writing settings files

A document that is an object is written as a settings file: its plain members first, one a line,
then a header for every member that is an object itself, with that object's members below it.

## Main Definitions

* `Toml.Quotes` — the four kinds of quotes; `Toml.Quotes.choose` — the one for a text
* `Toml.writeText`, `Toml.writeKey` — texts and keys
* `Toml.write` — a whole file

## Design Notes

A text is written in the first of these kinds that shows it unchanged: one line between double
quotes, one line between single quotes, several lines between double quotes, several lines between
single quotes. When none does, double quotes are used with escapes.
-/

namespace QuerySession.Toml

/-- The kinds of quotes around a text. -/
inductive Quotes where
  | basic
  | literal
  | longBasic
  | longLiteral
  deriving DecidableEq

/-- The length of the longest run of `c`, where `run` of them stand directly in front. -/
def longestRun (c : Char) (run : Nat) : List Char → Nat
  | [] => run
  | d :: rest => if d = c then longestRun c (run + 1) rest else max run (longestRun c 0 rest)

/-- Whether `c` can only be written as an escape. -/
def isControl (c : Char) : Bool :=
  (c.toNat < 0x20 && c != '\t' && c != '\n') || c.toNat == 0x7F

/-- Whether the quotes show a text unchanged. -/
def Quotes.suit (cs : List Char) : Quotes → Bool
  | basic => !cs.any fun c => isControl c || c = '\\' || c = '"' || c = '\n'
  | literal => !cs.any fun c => isControl c || c = '\'' || c = '\n'
  | longBasic => !(cs.any fun c => isControl c || c = '\\') && longestRun '"' 0 cs ≤ 2
  | longLiteral => !cs.any isControl && longestRun '\'' 0 cs ≤ 2

/-- The quotes for a text. -/
def Quotes.choose (cs : List Char) : Quotes :=
  match [basic, literal, longBasic, longLiteral].find? (·.suit cs) with
  | some quotes => quotes
  | none => if cs.contains '\n' then longBasic else basic

/-- The digits of `n` in base 16, in capital letters, four at least. -/
def fourDigits (n : Nat) : List Char :=
  let ds := (Nat.toDigits 16 n).map Char.toUpper
  List.replicate (4 - ds.length) '0' ++ ds

/-- How a character stands between double quotes; a line end is kept on several lines. -/
def escaped (long : Bool) (c : Char) : List Char :=
  if c.toNat = 8 then ['\\', 'b']
  else if c = '\t' then ['\\', 't']
  else if c = '\n' then (if long then ['\n'] else ['\\', 'n'])
  else if c.toNat = 0xC then ['\\', 'f']
  else if c = '\r' then ['\\', 'r']
  else if c = '\\' then ['\\', '\\']
  else if isControl c then '\\' :: 'u' :: fourDigits c.toNat
  else [c]

/-- A text between double quotes, with escapes. Behind `quotes` quotes in a row, a further one is
escaped when there are `limit` of them. -/
def writeEscaped (long : Bool) (limit quotes : Nat) : List Char → List Char
  | [] => []
  | '"' :: rest =>
    if limit ≤ quotes then '\\' :: '"' :: writeEscaped long limit 0 rest
    else '"' :: writeEscaped long limit (quotes + 1) rest
  | c :: rest => escaped long c ++ writeEscaped long limit 0 rest

/-- A text in the given quotes. -/
def Quotes.write (cs : List Char) : Quotes → List Char
  | basic => '"' :: writeEscaped false 0 0 cs ++ ['"']
  | literal => '\'' :: cs ++ ['\'']
  | longBasic => '"' :: '"' :: '"' :: '\n' :: writeEscaped true 2 0 cs ++ ['"', '"', '"']
  | longLiteral => '\'' :: '\'' :: '\'' :: '\n' :: cs ++ ['\'', '\'', '\'']

/-- A text. -/
def writeText (s : String) : String := String.ofList ((Quotes.choose s.toList).write s.toList)

/-- Whether `c` may stand in a key without quotes. -/
def isBareKeyChar (c : Char) : Bool := c.isAlphanum || c = '_' || c = '-'

/-- A key: bare if possible, else in quotes on one line. -/
def writeKey (name : String) : String :=
  let cs := name.toList
  if cs ≠ [] ∧ cs.all isBareKeyChar then name
  else if Quotes.basic.suit cs then String.ofList (Quotes.basic.write cs)
  else if Quotes.literal.suit cs then String.ofList (Quotes.literal.write cs)
  else String.ofList (Quotes.basic.write cs)

/-- A value that is no table. -/
def writeScalar : Json → String
  | .bool b => if b then "true" else "false"
  | .num n => Json.writeNumber n
  | .str s => writeText s
  | .null | .arr _ | .obj _ => ""

/-- The items of a list on lines of their own. -/
def writeItems (items : List Json) : String :=
  String.join (items.map fun item => "    " ++ writeScalar item ++ ",\n")

/-- A list of plain values: on one line up to one item, else an item a line. -/
def writeList : List Json → String
  | [] => "[]"
  | [item] => "[" ++ writeScalar item ++ "]"
  | items => "[\n" ++ writeItems items ++ "]"

/-- A plain value. -/
def writeValue : Json → String
  | .arr items => writeList items
  | v => writeScalar v

/-- A dotted path of keys. -/
def writePath (path : List String) : String := ".".intercalate (path.map writeKey)

mutual

/-- The plain members of a table, a line each. -/
def writePlain : List (String × Json) → String
  | [] => ""
  | (_, .obj _) :: members => writePlain members
  | (name, v) :: members => writeKey name ++ " = " ++ writeValue v ++ "\n" ++ writePlain members

/-- The blocks of the tables among the members: a header and what is below it. -/
def writeTables (path : List String) : List (String × Json) → List String
  | [] => []
  | (name, .obj inner) :: members =>
    (("[" ++ writePath (path ++ [name]) ++ "]\n" ++ writePlain inner) ::
      writeTables (path ++ [name]) inner) ++ writeTables path members
  | _ :: members => writeTables path members

end

/-- A whole file; blocks are separated by an empty line. -/
def write (members : List (String × Json)) : String :=
  let front := writePlain members
  let blocks := writeTables [] members
  "\n".intercalate (if front = "" then blocks else front :: blocks)

end QuerySession.Toml
