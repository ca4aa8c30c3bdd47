import QuerySession.Text.Blank
import QuerySession.Text.LowerCase
import QuerySession.Time.Date

/-!
# Moments

A point in time, written as date, time of day and offset from universal time. Reading is lenient
about space and about the number of digits; writing gives universal time in one form.

## Main Definitions

* `Moment` — date and time of day, in universal time
* `Moment.ofText?` — reading, with any offset
* `Moment.toText` — writing

## Design Notes

A leap second is the last second of its minute with a fraction of one second or more.
-/

namespace QuerySession

/-- A point in time. -/
structure Moment where
  date : Date
  /-- Seconds since midnight. -/
  second : Nat
  /-- Billionths of a second; a whole second or more in a leap second. -/
  nano : Nat
  deriving DecidableEq

namespace Moment

/-! ### Reading -/

/-- Drop white space in front. -/
def skipBlanks (cs : List Char) : List Char := cs.dropWhile Text.isBlank

/-- The number that some digits denote. -/
def numberOf (ds : List Char) : Nat := ds.foldl (fun n d => n * 10 + (d.toNat - 48)) 0

/-- One digit or more, but no more than `limit`. -/
def readNumber (limit : Nat) (cs : List Char) : Option (Nat × List Char) :=
  match (cs.takeWhile Char.isDigit).take limit with
  | [] => none
  | ds => some (numberOf ds, cs.drop ds.length)

/-- A number that lies between bounds, behind white space. -/
def readField (low high : Nat) (cs : List Char) : Option (Nat × List Char) := do
  let (n, rest) ← readNumber 2 (skipBlanks cs)
  if low ≤ n ∧ n ≤ high then some (n, rest) else none

/-- A year behind white space: up to four digits, or a sign and any number of digits. -/
def readYear (cs : List Char) : Option (Int × List Char) :=
  match skipBlanks cs with
  | '-' :: rest => do
    let (n, rest) ← readNumber rest.length rest
    some (-n, rest)
  | '+' :: rest => do
    let (n, rest) ← readNumber rest.length rest
    some (n, rest)
  | rest => do
    let (n, rest) ← readNumber 4 rest
    some (n, rest)

/-- Read over one character, behind white space. -/
def readMark (c : Char) (cs : List Char) : Option (List Char) :=
  match skipBlanks cs with
  | d :: rest => if d = c then some rest else none
  | [] => none

/-- Read over what separates the date from the time. -/
def readSeparator : List Char → Option (List Char)
  | 't' :: rest | 'T' :: rest | ' ' :: rest => some rest
  | _ => none

/-- A fraction of a second in billionths, if there is a point; more than nine digits are cut. -/
def readFraction : List Char → Option (Nat × List Char)
  | '.' :: rest =>
    match rest.takeWhile Char.isDigit with
    | [] => none
    | ds =>
      let kept := ds.take 9
      some (numberOf kept * Nat.pow 10 (9 - kept.length), rest.dropWhile Char.isDigit)
  | cs => some (0, cs)

/-- The minutes of an offset behind its sign. -/
def readOffsetMinutes : List Char → Option (Nat × List Char)
  | a :: b :: rest =>
    if a.isDigit && b.isDigit then
      match rest.dropWhile fun c => c = ':' || Text.isBlank c with
      | c :: d :: rest =>
        if '0' ≤ c && c ≤ '5' && d.isDigit then some (numberOf [a, b] * 60 + numberOf [c, d], rest)
        else none
      | _ => none
    else none
  | _ => none

/-- An offset from universal time in minutes. -/
def readOffset : List Char → Option (Int × List Char)
  | 'Z' :: rest | 'z' :: rest => some (0, rest)
  | '+' :: rest => (readOffsetMinutes rest).map fun (n, rest) => ((n : Int), rest)
  | '-' :: rest | '−' :: rest => (readOffsetMinutes rest).map fun (n, rest) => (-(n : Int), rest)
  | a :: b :: c :: rest =>
    if [a, b, c].map Char.toLower = ['u', 't', 'c'] then some (0, rest) else none
  | _ => none

/-- The minutes of a day. -/
def minutesPerDay : Int := 1440

/-- The moment whose time of day, in a zone `offset` minutes ahead of universal time, is given. -/
def ofZoned? (date : Date) (hour minute second nano : Nat) (offset : Int) : Option Moment := do
  if minutesPerDay ≤ offset.natAbs then none
  else
    let (second, nano) := if second = 60 then (59, nano + 1000000000) else (second, nano)
    let minutes := (hour * 60 + minute : Nat) - offset
    let date ← if minutes < 0 then date.previous
      else if minutesPerDay ≤ minutes then date.next
      else some date
    some ⟨date, (minutes % minutesPerDay).toNat * 60 + second, nano⟩

/-- The moment that a text denotes. -/
def ofChars? (cs : List Char) : Option Moment := do
  let (year, cs) ← readYear cs
  let cs ← readMark '-' cs
  let (month, cs) ← readField 1 12 cs
  let cs ← readMark '-' cs
  let (day, cs) ← readField 1 31 cs
  let cs ← readSeparator cs
  let (hour, cs) ← readField 0 23 cs
  let cs ← readMark ':' cs
  let (minute, cs) ← readField 0 59 cs
  let cs ← readMark ':' cs
  let (second, cs) ← readField 0 60 cs
  let (nano, cs) ← readFraction cs
  let (offset, cs) ← readOffset (skipBlanks cs)
  let date ← Date.make? year month day
  if skipBlanks cs = [] then ofZoned? date hour minute second nano offset else none

/-- The moment that a text denotes. -/
def ofText? (s : String) : Option Moment := ofChars? s.toList

/-! ### Writing -/

/-- The digits of a number, padded with zeros to a width. -/
def padded (width n : Nat) : List Char :=
  let ds := Nat.toDigits 10 n
  List.replicate (width - ds.length) '0' ++ ds

/-- A year: four digits, or signed when it has none of its own. -/
def writeYear (year : Int) : List Char :=
  if 0 ≤ year ∧ year ≤ 9999 then padded 4 year.toNat
  else (if year < 0 then '-' else '+') :: padded 4 year.natAbs

/-- A fraction of a second with three, six or nine digits, whichever suffice; nothing for none. -/
def writeFraction (nano : Nat) : List Char :=
  if nano = 0 then []
  else if nano % 1000000 = 0 then '.' :: padded 3 (nano / 1000000)
  else if nano % 1000 = 0 then '.' :: padded 6 (nano / 1000)
  else '.' :: padded 9 nano

/-- The written form, in universal time. -/
def toText (m : Moment) : String :=
  let isLeap := 1000000000 ≤ m.nano
  let second := m.second % 60 + (if isLeap then 1 else 0)
  String.ofList <|
    writeYear m.date.year ++ '-' :: padded 2 m.date.month ++ '-' :: padded 2 m.date.day ++
    'T' :: padded 2 (m.second / 3600) ++ ':' :: padded 2 (m.second / 60 % 60) ++
    ':' :: padded 2 second ++ writeFraction (m.nano % 1000000000) ++ ['Z']

end Moment

end QuerySession
