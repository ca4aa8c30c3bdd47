import QuerySession.Json.Token
import QuerySession.Time.Date
import QuerySession.Toml.Tree

/-!
# Values without quotes

Truth values, numbers, dates and times. They are recognised by their whole spelling: a value that
has none of the forms is no value.

## Main Definitions

* `Toml.scalar?` — the value that a spelling denotes
* `Toml.joinsTime` — whether a time follows a date behind a single space
-/

namespace QuerySession.Toml

/-! ### Numbers -/

/-- Drop the low lines between digits; `none` when one stands elsewhere or there is no digit. -/
def digits? (isDigit : Char → Bool) : List Char → Option (List Char)
  | [] => none
  | [d] => if isDigit d then some [d] else none
  | d :: '_' :: rest => if isDigit d then (digits? isDigit rest).map (d :: ·) else none
  | d :: rest => if isDigit d then (digits? isDigit rest).map (d :: ·) else none

/-- The number that some digits of a base denote. -/
def valueIn (base : Nat) (ds : List Char) : Nat :=
  ds.foldl (fun n d => n * base + (Json.hexValue? d).getD 0) 0

/-- Whether `c` is a digit of the base. -/
def isDigitOf (base : Nat) (c : Char) : Bool := (Json.hexValue? c).any (· < base)

/-- Digits in base 10 without a needless zero in front. -/
def decimal? (cs : List Char) : Option (List Char) := do
  let ds ← digits? Char.isDigit cs
  if ds.head? = some '0' ∧ 1 < ds.length then none else some ds

/-- The sign in front, and the rest. -/
def splitSign : List Char → Bool × List Char
  | '-' :: rest => (true, rest)
  | '+' :: rest => (false, rest)
  | cs => (false, cs)

/-- A whole number. -/
def whole? (cs : List Char) : Option Int :=
  match cs with
  | '0' :: 'x' :: rest => (digits? (isDigitOf 16) rest).map fun ds => (valueIn 16 ds : Int)
  | '0' :: 'o' :: rest => (digits? (isDigitOf 8) rest).map fun ds => (valueIn 8 ds : Int)
  | '0' :: 'b' :: rest => (digits? (isDigitOf 2) rest).map fun ds => (valueIn 2 ds : Int)
  | _ =>
    let (negative, ds) := splitSign cs
    (decimal? ds).map fun ds =>
      let n : Int := valueIn 10 ds
      if negative then -n else n

/-- Exponents beyond this size leave nothing or too much. -/
def greatestPower : Nat := 100000

/-- The nearest number to `± digits · 10 ^ power`. -/
def ofDecimal? (negative : Bool) (digits : Nat) (power : Int) : Option Binary64 :=
  if digits = 0 then some (.zero negative)
  else if (greatestPower : Int) < power then none
  else if power < -(greatestPower : Int) then some (.zero negative)
  else if 0 ≤ power then Binary64.roundRatio negative (digits * Nat.pow 10 power.toNat) 1
  else Binary64.roundRatio negative digits (Nat.pow 10 (-power).toNat)

/-- The pieces before and behind the first of some characters; `none` without one. -/
def cutAt? (marks : List Char) (cs : List Char) : Option (List Char × List Char) :=
  match cs.dropWhile fun c => !marks.contains c with
  | _ :: behind => some (cs.takeWhile fun c => !marks.contains c, behind)
  | [] => none

/-- An exponent. -/
def power? (cs : List Char) : Option Int :=
  let (negative, ds) := splitSign cs
  (digits? Char.isDigit ds).map fun ds =>
    let n : Int := valueIn 10 ds
    if negative then -n else n

/-- A number with a point or an exponent; the inner `none` stands for one that is too large. -/
def real? (cs : List Char) : Option (Option Binary64) := do
  let (negative, cs) := splitSign cs
  let (front, power) ← match cutAt? ['e', 'E'] cs with
    | some (front, behind) => (power? behind).map fun p => (front, some p)
    | none => some (cs, none)
  let (whole, fraction) ← match cutAt? ['.'] front with
    | some (whole, behind) => do
      let w ← decimal? whole
      let f ← digits? Char.isDigit behind
      some (w, f)
    | none => do
      let w ← decimal? front
      if power.isNone then none else some (w, [])
  some (ofDecimal? negative (valueIn 10 (whole ++ fraction))
    (power.getD 0 - fraction.length))

/-! ### Dates and times -/

/-- The number that exactly `count` digits in front denote. -/
def readFixed (count : Nat) (cs : List Char) : Option (Nat × List Char) :=
  let ds := cs.take count
  if ds.length = count ∧ ds.all Char.isDigit then some (valueIn 10 ds, cs.drop count) else none

/-- Read over one character. -/
def readChar (c : Char) : List Char → Option (List Char)
  | d :: rest => if d = c then some rest else none
  | [] => none

/-- A date. -/
def readDate (cs : List Char) : Option (List Char × List Char) := do
  let (year, rest) ← readFixed 4 cs
  let rest ← readChar '-' rest
  let (month, rest) ← readFixed 2 rest
  let rest ← readChar '-' rest
  let (day, rest) ← readFixed 2 rest
  let _ ← Date.make? year month day
  some (cs.take 10, rest)

/-- A fraction of a second without the zeros at its end, up to nine digits. -/
def readFractionText : List Char → Option (List Char × List Char)
  | '.' :: rest =>
    match rest.takeWhile Char.isDigit with
    | [] => none
    | ds =>
      let kept := ((ds.take 9).reverse.dropWhile (· = '0')).reverse
      some (if kept = [] then [] else '.' :: kept, rest.dropWhile Char.isDigit)
  | cs => some ([], cs)

/-- A time of day; the seconds may be missing. -/
def readTime (cs : List Char) : Option (List Char × List Char) := do
  let (hour, rest) ← readFixed 2 cs
  let rest ← readChar ':' rest
  let (minute, rest) ← readFixed 2 rest
  if 23 < hour ∨ 59 < minute then none
  else match rest with
    | ':' :: rest => do
      let (second, behind) ← readFixed 2 rest
      let (fraction, behind) ← readFractionText behind
      if 60 < second then none else some (cs.take 8 ++ fraction, behind)
    | rest => some (cs.take 5, rest)

/-- An offset from universal time, if there is one. -/
def readOffset : List Char → Option (List Char × List Char)
  | 'Z' :: rest | 'z' :: rest => some (['Z'], rest)
  | c :: rest =>
    if c = '+' ∨ c = '-' then do
      let (hour, behind) ← readFixed 2 rest
      let behind ← readChar ':' behind
      let (minute, behind) ← readFixed 2 behind
      if 23 < hour ∨ 59 < minute then none else some (c :: rest.take 5, behind)
    else none
  | [] => some ([], [])

/-- A date, a time, or a date with a time and perhaps an offset, in normal form. -/
def stamp? (cs : List Char) : Option String := do
  match readDate cs with
  | some (date, []) => some (String.ofList date)
  | some (date, mark :: rest) =>
    if mark = 'T' ∨ mark = 't' ∨ mark = ' ' then do
      let (time, rest) ← readTime rest
      let (offset, rest) ← readOffset rest
      if rest = [] then some (String.ofList (date ++ 'T' :: time ++ offset)) else none
    else none
  | none => do
    let (time, rest) ← readTime cs
    if rest = [] then some (String.ofList time) else none

/-- Whether `cs`, behind a date and a space, goes on with a time. -/
def joinsTime (date cs : List Char) : Bool :=
  (match readDate date with
    | some (_, []) => true
    | _ => false) && cs.head?.any Char.isDigit

/-- The value that a spelling without quotes denotes. -/
def scalar? (cs : List Char) : Option Value :=
  if cs = "true".toList then some (.flag true)
  else if cs = "false".toList then some (.flag false)
  else if (splitSign cs).2 = "inf".toList ∨ (splitSign cs).2 = "nan".toList then some .limit
  else match whole? cs with
    | some n => some (.whole n)
    | none => match real? cs with
      | some x => x.map .real
      | none => (stamp? cs).map .stamp

end QuerySession.Toml
