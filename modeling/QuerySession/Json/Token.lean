import QuerySession.Json.Basic

/-!
# Reading texts and numbers of documents

The pieces of a document that hold no others: words, texts and numbers. A text that does not fit is
refused with the class of its first fault, in reading order.

## Main Definitions

* `Json.Fault` — the classes of faults
* `Json.readText` — a text behind its opening quote
* `Json.Numeral` and `Json.Numeral.value` — the parts of a number, and the number they denote

## Design Notes

A value that is read over without being kept (a member nobody asks for) is checked less strictly:
its texts may hold unpaired surrogates, its numbers may be of any size, and a number that breaks
off at the end of the document counts as malformed rather than truncated. The flag `strict` tells
the two ways of reading apart.
-/

namespace QuerySession.Json

/-- Why a text is not a document of the expected form. -/
inductive Fault where
  /-- The text breaks the rules of documents. -/
  | malformed
  /-- A well-formed value of the wrong form stands here. -/
  | mismatch
  /-- The text ends too early. -/
  | truncated
  deriving DecidableEq

/-- What reading the front of a text gives: a value and the rest of the text. -/
abbrev Read (α : Type) := Except Fault (α × List Char)

/-- Whether `c` may stand between the pieces of a document. -/
def isSpace (c : Char) : Bool := c = ' ' || c = '\n' || c = '\t' || c = '\r'

/-- Drop the space in front. -/
def skipSpace (cs : List Char) : List Char := cs.dropWhile isSpace

/-- Read over the exact word `expected`. -/
def readWord : (expected : List Char) → List Char → Read Unit
  | [], cs => .ok ((), cs)
  | _ :: _, [] => .error .truncated
  | e :: expected, c :: cs => if c = e then readWord expected cs else .error .malformed

/-! ### Texts -/

/-- The value of a hexadecimal digit. -/
def hexValue? (c : Char) : Option Nat :=
  if '0' ≤ c ∧ c ≤ '9' then some (c.toNat - 48)
  else if 'a' ≤ c ∧ c ≤ 'f' then some (c.toNat - 87)
  else if 'A' ≤ c ∧ c ≤ 'F' then some (c.toNat - 55)
  else none

/-- The value of four hexadecimal digits. -/
def hexQuad? (a b c d : Char) : Option Nat := do
  let a ← hexValue? a
  let b ← hexValue? b
  let c ← hexValue? c
  let d ← hexValue? d
  pure (((a * 16 + b) * 16 + c) * 16 + d)

/-- The fault of an escape followed by fewer than four characters: as long as four bytes follow
they are digits that are none, else the text ends too early. -/
def shortQuad (cs : List Char) : Fault :=
  if 4 ≤ cs.foldr (fun c size => c.utf8Size + size) 0 then .malformed else .truncated

/-- Whether `n` is the first half of a surrogate pair. -/
def isLeading (n : Nat) : Bool := 0xD800 ≤ n && n ≤ 0xDBFF

/-- Whether `n` is the second half of a surrogate pair. -/
def isTrailing (n : Nat) : Bool := 0xDC00 ≤ n && n ≤ 0xDFFF

/-- The character that a surrogate pair denotes. -/
def ofPair (lead trail : Nat) : Char :=
  Char.ofNat (0x10000 + (lead - 0xD800) * 0x400 + (trail - 0xDC00))

/-- Put `c` in front of the text that was read. -/
def before (c : Char) : Read (List Char) → Read (List Char) :=
  Except.map fun (text, rest) => (c :: text, rest)

/-- A text behind its opening quote, up to and without the closing one. -/
def readText (strict : Bool) : List Char → Read (List Char)
  | [] => .error .truncated
  | '"' :: rest => .ok ([], rest)
  | '\\' :: [] => .error .truncated
  | '\\' :: '"' :: rest => before '"' (readText strict rest)
  | '\\' :: '\\' :: rest => before '\\' (readText strict rest)
  | '\\' :: '/' :: rest => before '/' (readText strict rest)
  | '\\' :: 'b' :: rest => before '\x08' (readText strict rest)
  | '\\' :: 'f' :: rest => before '\x0c' (readText strict rest)
  | '\\' :: 'n' :: rest => before '\n' (readText strict rest)
  | '\\' :: 'r' :: rest => before '\r' (readText strict rest)
  | '\\' :: 't' :: rest => before '\t' (readText strict rest)
  | '\\' :: 'u' :: a :: b :: c :: d :: rest =>
    match hexQuad? a b c d with
    | none => .error .malformed
    | some lead =>
      if !strict then before (Char.ofNat lead) (readText strict rest)
      else if isTrailing lead then .error .malformed
      else if !isLeading lead then before (Char.ofNat lead) (readText strict rest)
      else match rest with
        | '\\' :: 'u' :: a' :: b' :: c' :: d' :: rest' =>
          match hexQuad? a' b' c' d' with
          | none => .error .malformed
          | some trail =>
            if isTrailing trail then before (ofPair lead trail) (readText strict rest')
            else .error .malformed
        | '\\' :: 'u' :: short => .error (shortQuad short)
        | '\\' :: _ :: _ => .error .malformed
        | ['\\'] => .error .truncated
        | [] => .error .truncated
        | _ => .error .malformed
  | '\\' :: 'u' :: short => .error (shortQuad short)
  | '\\' :: _ => .error .malformed
  | c :: rest =>
    if c.toNat < 0x20 then .error .malformed else before c (readText strict rest)

/-! ### Numbers -/

/-- The parts of a written number. -/
structure Numeral where
  negative : Bool
  whole : List Char
  fraction : Option (List Char)
  /-- Whether the exponent counts down, and its digits. -/
  exponent : Option (Bool × List Char)
  deriving DecidableEq

/-- The fault of a number without the digit it needs before `cs`. -/
def missingDigit (strict : Bool) (cs : List Char) : Fault :=
  if strict && cs.isEmpty then .truncated else .malformed

/-- One digit or more. -/
def readDigits (strict : Bool) (cs : List Char) : Read (List Char) :=
  match cs.takeWhile Char.isDigit with
  | [] => .error (missingDigit strict cs)
  | ds => .ok (ds, cs.dropWhile Char.isDigit)

/-- The digits before the point: no zero in front of another digit. -/
def readWhole (strict : Bool) : List Char → Read (List Char)
  | '0' :: rest =>
    match rest with
    | c :: _ => if c.isDigit then .error .malformed else .ok (['0'], rest)
    | [] => .ok (['0'], rest)
  | cs => readDigits strict cs

/-- The digits behind a point, if there is a point. -/
def readFraction (strict : Bool) : List Char → Read (Option (List Char))
  | '.' :: rest => (readDigits strict rest).map fun (ds, rest) => (some ds, rest)
  | cs => .ok (none, cs)

/-- The digits of an exponent behind its sign. -/
def readPower (strict down : Bool) (cs : List Char) : Read (Option (Bool × List Char)) :=
  (readDigits strict cs).map fun (ds, rest) => (some (down, ds), rest)

/-- An exponent, if there is one. -/
def readExponent (strict : Bool) : List Char → Read (Option (Bool × List Char))
  | c :: rest =>
    if c = 'e' ∨ c = 'E' then
      match rest with
      | '+' :: rest => readPower strict false rest
      | '-' :: rest => readPower strict true rest
      | _ => readPower strict false rest
    else .ok (none, c :: rest)
  | [] => .ok (none, [])

/-- A number behind its sign. -/
def readNumeral (strict negative : Bool) (cs : List Char) :
    Except Fault (Numeral × List Char) := do
  let (whole, cs) ← readWhole strict cs
  let (fraction, cs) ← readFraction strict cs
  let (exponent, cs) ← readExponent strict cs
  pure (⟨negative, whole, fraction, exponent⟩, cs)

/-- The value of a decimal digit. -/
def digitValue (c : Char) : Nat := c.toNat - 48

/-- The greatest significand that is kept. -/
def greatestSignificand : Nat := 0xFFFFFFFFFFFFFFFF

/-- Extend a significand by the digits before the point; from the first digit that does not fit on,
digits are only counted. -/
def takeWhole (significand : Nat) : List Char → Nat × Nat
  | [] => (significand, 0)
  | d :: ds =>
    let next := significand * 10 + digitValue d
    if next ≤ greatestSignificand then takeWhole next ds else (significand, ds.length + 1)

/-- Extend a significand by the digits behind the point, up to the first that does not fit; the
count says how many were taken. -/
def takeFraction (significand : Nat) : List Char → Nat × Nat
  | [] => (significand, 0)
  | d :: ds =>
    let next := significand * 10 + digitValue d
    if next ≤ greatestSignificand then
      let (s, n) := takeFraction next ds
      (s, n + 1)
    else (significand, 0)

/-- Exponents are kept up to this size. -/
def greatestExponent : Nat := 0x7FFFFFFF

/-- Scale by a power of ten in steps of at most `10 ^ 308`, each rounded on its own; `none` when
the result is beyond the greatest number. -/
def scale (fuel : Nat) (x : Binary64) (exponent : Int) : Option Binary64 :=
  match fuel with
  | 0 => some x
  | fuel + 1 =>
    if x.isZero then some x
    else if exponent.natAbs ≤ 308 then do
      let power ← Binary64.tenTo exponent.natAbs
      if 0 ≤ exponent then x.mul power else x.div power
    else if 0 ≤ exponent then none
    else do
      let power ← Binary64.tenTo 308
      let smaller ← x.div power
      scale fuel smaller (exponent + 308)

namespace Numeral

/-- The exponent as a number, or `none` when it is too large to be kept. -/
def power? (n : Numeral) : Option Int :=
  match n.exponent with
  | none => some 0
  | some (down, ds) =>
    let size := ds.foldl (fun acc d => acc * 10 + digitValue d) 0
    if greatestExponent < size then none else some (if down then -size else size)

/-- The floating-point number that a numeral denotes, or `none` when it is beyond the greatest. -/
def real? (n : Numeral) : Option Binary64 := do
  let (s, dropped) := takeWhole 0 n.whole
  let (s, taken) := takeFraction s (n.fraction.getD [])
  let x ← match n.power? with
    | some power => do
      let x ← Binary64.ofInt? s
      scale 8 x (dropped - taken + power)
    | none =>
      if s ≠ 0 ∧ (n.exponent.map (·.1)) = some false then none else some (Binary64.zero false)
  pure { x with negative := n.negative }

/-- The number that a numeral denotes: a whole number when it is written as one and lies between
`-2 ^ 63` and `2 ^ 64 - 1`, but for minus zero; a floating-point number else. -/
def value (n : Numeral) : Except Fault JsonNumber :=
  let (s, dropped) := takeWhole 0 n.whole
  let asReal := match n.real? with
    | some x => .ok (.real x)
    | none => .error .malformed
  if n.fraction.isSome ∨ n.exponent.isSome ∨ dropped ≠ 0 then asReal
  else if !n.negative then .ok (.whole s)
  else if s ≠ 0 ∧ s ≤ 0x8000000000000000 then .ok (.whole (-s))
  else asReal

end Numeral

/-- A number behind its sign, as a value. -/
def readNumber (negative : Bool) (cs : List Char) : Except Fault (JsonNumber × List Char) := do
  let (n, rest) ← readNumeral true negative cs
  let v ← n.value
  pure (v, rest)

end QuerySession.Json
