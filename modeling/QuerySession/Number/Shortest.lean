import QuerySession.Number.Binary64

/-!
# Shortest decimals

The fewest decimal digits that still denote a given floating-point number: a decimal denotes the
number it rounds to, so all decimals in the interval of reals that round to the number do. Among
the shortest of them the nearest one is taken, and of two equally near ones that with an even last
digit.

## Main Definitions

* `Decimal` — digits and the power of ten of the last one
* `Binary64.shortest` — the shortest decimal of a number
-/

namespace QuerySession

/-- The decimal `digits · 10 ^ scale`. -/
structure Decimal where
  digits : Nat
  scale : Int
  deriving DecidableEq

namespace Binary64

/-- The magnitude and the ends of the interval that rounds to it, over one denominator. -/
structure Neighbourhood where
  low : Nat
  value : Nat
  high : Nat
  den : Nat
  /-- Whether the ends themselves round to the number. -/
  closed : Bool

/-- The reals that round to the magnitude of `x`. The gap below a power of two is half as wide,
except at the least exponent. -/
def neighbourhood (x : Binary64) : Neighbourhood :=
  let narrow := x.mantissa = leastNormal ∧ leastExponent < x.exponent
  let up := if 0 ≤ x.exponent then Nat.pow 2 x.exponent.toNat else 1
  let den := if 0 ≤ x.exponent then 4 else 4 * Nat.pow 2 (-x.exponent).toNat
  { low := (4 * x.mantissa - (if narrow then 1 else 2)) * up
    value := 4 * x.mantissa * up
    high := (4 * x.mantissa + 2) * up
    den := den
    closed := x.mantissa % 2 == 0 }

/-- Whether the decimal `d` lies in the neighbourhood. -/
def Neighbourhood.holds (n : Neighbourhood) (d : Decimal) : Bool :=
  let (num, den) :=
    if 0 ≤ d.scale then (d.digits * Nat.pow 10 d.scale.toNat, 1)
    else (d.digits, Nat.pow 10 (-d.scale).toNat)
  let point := num * n.den
  if n.closed then n.low * den ≤ point && point ≤ n.high * den
  else n.low * den < point && point < n.high * den

/-- The value in units of `10 ^ scale`, as a ratio. -/
def Neighbourhood.scaled (n : Neighbourhood) (scale : Int) : Nat × Nat :=
  if 0 ≤ scale then (n.value, n.den * Nat.pow 10 scale.toNat)
  else (n.value * Nat.pow 10 (-scale).toNat, n.den)

/-- The nearer of the two grid points around the value that denote the number, if any does. -/
def Neighbourhood.onGrid (n : Neighbourhood) (scale : Int) : Option Decimal :=
  let (num, den) := n.scaled scale
  let floor : Decimal := ⟨num / den, scale⟩
  let ceiling : Decimal := ⟨num / den + 1, scale⟩
  match n.holds floor, n.holds ceiling with
  | true, true => some (if roundsUp floor.digits (num % den) den then ceiling else floor)
  | true, false => some floor
  | false, true => some ceiling
  | false, false => none

/-- The least `k` with value below `10 ^ k`, found by correcting a guess. -/
def Neighbourhood.magnitude (n : Neighbourhood) : Int :=
  let reaches (k : Int) : Bool :=
    if 0 ≤ k then n.den * Nat.pow 10 k.toNat ≤ n.value
    else n.den ≤ n.value * Nat.pow 10 (-k).toNat
  let guess : Int := ((n.value.log2 : Int) - (n.den.log2 : Int)) * 30103 / 100000 - 1
  let up (k : Int) : Int := if reaches k then k + 1 else k
  up (up (up guess))

/-- Drop trailing zeros, at most as many as `fuel`. -/
def trimZeros : Nat → Decimal → Decimal
  | 0, d => d
  | fuel + 1, d =>
    if d.digits ≠ 0 ∧ d.digits % 10 = 0 then trimZeros fuel ⟨d.digits / 10, d.scale + 1⟩ else d

/-- The shortest decimal that denotes the magnitude of `x`; seventeen digits always suffice. -/
def shortest (x : Binary64) : Decimal :=
  if x.isZero then ⟨0, 0⟩
  else
    let n := x.neighbourhood
    let top := n.magnitude
    match (List.range 17).findSome? fun (k : Nat) => n.onGrid (top - (k + 1)) with
    | some d => trimZeros 20 d
    | none => ⟨x.mantissa, 0⟩

end Binary64

end QuerySession
