import QuerySession.Json.Token
import QuerySession.Simulation.Url.Label
import QuerySession.Text.LowerCase
import QuerySession.Text.Ranges

/-!
# Hosts of simulated addresses

The host of an address: a domain name or a numeric address of either kind. A name whose last part
is a number has to be a numeric address as a whole.

## Main Definitions

* `Fault` — why a text is no address, with its wording
* `Host` — the host; `Host.ofText` — reading it

## Design Notes

Names beyond ASCII are read by a small part of the Unicode tables, enough for simulated runs.
-/

namespace QuerySession.SimulatedUrl

/-- Why a text is no address. -/
inductive Fault where
  | noScheme
  | emptyHost
  | invalidDomain
  | invalidCharacter
  | invalidPort
  | invalidIpv4
  | invalidIpv6
  deriving DecidableEq

/-- The wording. -/
def Fault.message : Fault → String
  | noScheme => "relative URL without a base"
  | emptyHost => "empty host"
  | invalidDomain => "invalid international domain name"
  | invalidCharacter => "invalid domain character"
  | invalidPort => "invalid port number"
  | invalidIpv4 => "invalid IPv4 address"
  | invalidIpv6 => "invalid IPv6 address"

/-- The host of an address. -/
inductive Host where
  | domain (name : String)
  | ipv4 (number : Nat)
  | ipv6 (pieces : List Nat)
  deriving DecidableEq

namespace Host

/-! ### Numeric addresses -/

/-- The number that digits of a base denote; `none` for other characters. -/
def numberIn? (base : Nat) (cs : List Char) : Option Nat :=
  cs.foldlM (fun n c => do
    let d ← Json.hexValue? c
    if d < base then some (n * base + d) else none) 0

/-- A part of a numeric address: in base 16 behind `0x`, in base 8 behind `0`, else in base 10. -/
def part? : List Char → Option Nat
  | [] => none
  | '0' :: 'x' :: rest | '0' :: 'X' :: rest => numberIn? 16 rest
  | '0' :: c :: rest => numberIn? 8 (c :: rest)
  | cs => numberIn? 10 cs

/-- The parts between dots, without an empty one at the end. -/
def dotted (cs : List Char) : List (List Char) :=
  let parts := cs.splitOn '.'
  if parts.getLast? = some [] then parts.dropLast else parts

/-- Whether the last part of a name is a number. -/
def endsInNumber (cs : List Char) : Bool :=
  match (dotted cs).getLast? with
  | none => false
  | some last => (last != [] && last.all Char.isDigit) || (part? last).isSome

/-- A numeric address of four parts or fewer, of which the last fills up what is left. -/
def ipv4? (cs : List Char) : Option Nat := do
  let numbers ← (dotted cs).mapM part?
  let last ← numbers.getLast?
  let front := numbers.dropLast
  if 3 < front.length ∨ front.any (255 < ·) ∨ Nat.pow 256 (4 - front.length) ≤ last then none
  else some (front.foldr (fun n low => n * 0x1000000 + low / 256) 0 + last)

/-- Up to four digits in base 16. -/
def piece? (cs : List Char) : Option Nat :=
  if cs = [] ∨ 4 < cs.length then none else numberIn? 16 cs

/-- A number up to 255 without needless zeros. -/
def byte? (cs : List Char) : Option Nat :=
  match cs with
  | [] => none
  | '0' :: _ :: _ => none
  | cs => (numberIn? 10 cs).filter (· ≤ 255)

/-- Four numbers between dots, as two pieces. -/
def embedded? (cs : List Char) : Option (List Nat) := do
  match ← (cs.splitOn '.').mapM byte? with
  | [a, b, c, d] => some [a * 256 + b, c * 256 + d]
  | _ => none

/-- Pieces between colons; at the end of an address four dotted numbers may stand for two. -/
def pieces? (atEnd : Bool) (cs : List Char) : Option (List Nat) :=
  if cs = [] then some []
  else
    let groups := cs.splitOn ':'
    do
      let front ← groups.dropLast.mapM piece?
      let last ← groups.getLast?
      if atEnd && last.contains '.' then (embedded? last).map (front ++ ·)
      else (piece? last).map fun p => front ++ [p]

/-- The text before and behind the first double colon. -/
def cutAtGap : List Char → Option (List Char × List Char)
  | ':' :: ':' :: rest => some ([], rest)
  | c :: rest => (cutAtGap rest).map fun (before, behind) => (c :: before, behind)
  | [] => none

/-- An address of eight pieces, some of which a double colon may stand for. -/
def ipv6? (cs : List Char) : Option (List Nat) :=
  match cutAtGap cs with
  | none => (pieces? true cs).filter (·.length = 8)
  | some (before, behind) => do
    let front ← pieces? false before
    let back ← pieces? true behind
    let given := front.length + back.length
    if given ≤ 7 then some (front ++ List.replicate (8 - given) 0 ++ back) else none

/-! ### Names -/

/-- The characters that no domain name holds. -/
def isForbidden (c : Char) : Bool :=
  c.toNat ≤ 0x20 || c.toNat == 0x7F ||
    ['#', '/', ':', '<', '>', '?', '@', '[', '\\', ']', '^', '|', '%'].contains c

/-- Beyond ASCII, what no domain name holds: controls, spaces, private and unassigned codes. -/
def outlawed : List (Nat × Nat) := [
  (0x80, 0xA0), (0x1680, 0x1680), (0x2000, 0x200A), (0x200C, 0x200F), (0x2028, 0x202F),
  (0x205F, 0x205F), (0x2061, 0x2063), (0x2065, 0x206F), (0x3000, 0x3000), (0xE000, 0xF8FF),
  (0xFDD0, 0xFDEF), (0xFFF0, 0xFFFF), (0x1FFFE, 0x1FFFF), (0xE0000, 0xE00FF),
  (0xE01F0, 0x10FFFF)]

/-- What domain names are read over. -/
def ignored : List (Nat × Nat) := [
  (0xAD, 0xAD), (0x34F, 0x34F), (0x180B, 0x180D), (0x200B, 0x200B), (0x2060, 0x2060),
  (0x2064, 0x2064), (0xFE00, 0xFE0F), (0xFEFF, 0xFEFF), (0xE0100, 0xE01EF)]

/-- A wide form of an ASCII character, or an ideographic full stop, as the plain character. -/
def narrow (c : Char) : Char :=
  if 0xFF01 ≤ c.toNat ∧ c.toNat ≤ 0xFF5E then Char.ofNat (c.toNat - 0xFEE0)
  else if c.toNat = 0x3002 ∨ c.toNat = 0xFF61 then '.'
  else c

/-- The byte that a percent sign with two digits denotes. -/
def escapedByte? (percent high low : UInt8) : Option UInt8 := do
  let x ← Json.hexValue? (Char.ofNat high.toNat)
  let y ← Json.hexValue? (Char.ofNat low.toNat)
  if percent = 0x25 then some (UInt8.ofNat (x * 16 + y)) else none

/-- Replace every percent sign that two digits follow by the byte that they denote. -/
def percentDecoded : List UInt8 → List UInt8
  | b :: x :: y :: rest =>
    match escapedByte? b x y with
    | some byte => byte :: percentDecoded rest
    | none => b :: percentDecoded (x :: y :: rest)
  | short => short

/-- Whether a domain name may hold a character. -/
def isAllowed (c : Char) : Bool := !isForbidden c && !Text.inRanges outlawed c.toNat

/-- A text in small letters and plain characters. -/
def plainForm (cs : List Char) : List Char :=
  let kept := (cs.map narrow).filter fun c => !Text.inRanges ignored c.toNat
  (Text.lowerCase (String.ofList kept)).toList

/-- Whether a label, if it is an encoded one, stands for a plain text beyond ASCII. -/
def isSoundLabel (label : List Char) : Bool :=
  if Label.mark.isPrefixOf label then
    match Label.decode? (label.drop Label.mark.length) with
    | some cs => cs.any (0x80 ≤ ·.toNat) && plainForm cs == cs && cs.all isAllowed
    | none => false
  else true

/-- A domain name in its one form: decoded, in small letters and plain characters. -/
def domainName? (s : String) : Option (List Char) := do
  let decoded ← String.fromUTF8? ⟨(percentDecoded s.toUTF8.toList).toArray⟩
  let cs := plainForm decoded.toList
  if cs.all isAllowed && (cs.splitOn '.').all isSoundLabel then some cs else none

/-- An address in brackets, behind the opening one. -/
def bracketed (cs : List Char) : Except Fault Host :=
  if cs.getLast? ≠ some ']' then .error .invalidIpv6
  else match ipv6? cs.dropLast with
    | some pieces => .ok (.ipv6 pieces)
    | none => .error .invalidIpv6

/-- The host of an address on the web. -/
def ofText (s : String) : Except Fault Host :=
  match s.toList with
  | '[' :: rest => bracketed rest
  | _ => match domainName? s with
    | none => .error .invalidDomain
    | some [] => .error .emptyHost
    | some cs =>
      -- A name that ends in a number is taken for a numeric address, or for nothing.
      if endsInNumber cs then
        match ipv4? cs with
        | some n => .ok (.ipv4 n)
        | none => .error .invalidIpv4
      else .ok (.domain (String.ofList cs))

/-- The characters that no host of another scheme holds. -/
def isForbiddenElsewhere (c : Char) : Bool :=
  ['\x00', '\t', '\n', '\r', ' ', '#', '/', ':', '<', '>', '?', '@', '[', '\\', ']', '^',
    '|'].contains c

/-- The host of an address of another scheme; it may be empty. -/
def ofOpaqueText (s : String) : Except Fault Host :=
  match s.toList with
  | '[' :: rest => bracketed rest
  | cs => if cs.any isForbiddenElsewhere then .error .invalidCharacter else .ok (.domain s)

end Host

end QuerySession.SimulatedUrl
