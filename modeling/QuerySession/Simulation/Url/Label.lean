/-!
# Encoded labels

A part of a domain name that begins with `xn--` stands for a text beyond ASCII. Behind the mark
come the text's ASCII characters, a hyphen when there are any, and digits in base 36 that say
which characters go where.

## Main Definitions

* `Label.Reading` — how far the digits have been read, with `Reading.digit` for the next one
* `Label.decode?` — the text that an encoded label stands for

## Design Notes

Numbers are written with the least digit first. A digit below a threshold ends its number, and the
thresholds follow the sizes of the numbers before. Every number says how many places to move on
through the text; a move over the end of the text raises the code of the character to insert.
-/

namespace QuerySession.SimulatedUrl.Label

/-- The mark of an encoded label. -/
def mark : List Char := ['x', 'n', '-', '-']

/-- The value of a digit in base 36, letters before numerals. -/
def digitValue? (c : Char) : Option Nat :=
  if 'a' ≤ c ∧ c ≤ 'z' then some (c.toNat - 'a'.toNat)
  else if '0' ≤ c ∧ c ≤ '9' then some (c.toNat - '0'.toNat + 26)
  else none

/-- The digit from which on a number goes on, at the `place`th of its digits. -/
def threshold (bias place : Nat) : Nat := min 26 (max 1 (36 * (place + 1) - bias))

/-- Divide by 35 until at most 455 is left, and count the divisions from `count` on. -/
def reduce (n count : Nat) : Nat × Nat :=
  if 455 < n then reduce (n / 35) (count + 1) else (n, count)
termination_by n
decreasing_by omega

/-- The bias behind a number: `size` characters are there, the new one included. -/
def biasAfter (number size : Nat) (isFirst : Bool) : Nat :=
  let damped := if isFirst then number / 700 else number / 2
  let (n, count) := reduce (damped + damped / size) 0
  36 * count + 36 * n / (n + 38)

/-- How far the digits have been read. -/
structure Reading where
  /-- The characters so far. -/
  text : List Char
  /-- The code of the next character. -/
  code : Nat
  /-- Where the next character goes when the number to read is zero. -/
  index : Nat
  bias : Nat
  isFirst : Bool
  /-- The number that is being read, as far as it is known. -/
  number : Nat
  weight : Nat
  place : Nat

namespace Reading

/-- Before the first digit, behind the ASCII characters. -/
def start (basic : List Char) : Reading := ⟨basic, 0x80, 0, 72, true, 0, 1, 0⟩

/-- Whether no number has been begun. -/
def isWhole (r : Reading) : Bool := r.place == 0

/-- Insert the character that a number asks for. -/
def insert (r : Reading) (number : Nat) : Option Reading :=
  let size := r.text.length + 1
  let code := r.code + (r.index + number) / size
  let slot := (r.index + number) % size
  if code.isValidChar then
    some ⟨r.text.take slot ++ Char.ofNat code :: r.text.drop slot, code, slot + 1,
      biasAfter number size r.isFirst, false, 0, 1, 0⟩
  else none

/-- Read the next digit. -/
def digit (r : Reading) (c : Char) : Option Reading := do
  let d ← digitValue? c
  let number := r.number + d * r.weight
  let least := threshold r.bias r.place
  if d < least then r.insert number
  else some { r with number, weight := r.weight * (36 - least), place := r.place + 1 }

end Reading

/-- The text that the characters behind the mark stand for. -/
def decode? (cs : List Char) : Option (List Char) :=
  let (basic, digits) := match (cs.splitOn '-').reverse with
    | digits :: first :: parts => (['-'].intercalate (first :: parts).reverse, digits)
    | _ => ([], cs)
  if cs.head? = some '-' ∧ basic = [] then none
  else ((digits.foldlM Reading.digit (.start basic)).filter Reading.isWhole).map (·.text)

end QuerySession.SimulatedUrl.Label
