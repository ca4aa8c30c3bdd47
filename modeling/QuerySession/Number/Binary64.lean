/-!
# Binary floating point

Finite numbers of the 64-bit binary format, written out as sign, mantissa and exponent, so that
every operation is exact arithmetic on natural numbers followed by one rounding. Infinities and
not-a-number never arise here: an operation whose result is too large answers `none`.

## Main Definitions

* `Binary64` — the number `± mantissa · 2 ^ exponent`
* `Binary64.roundRatio` — the format's nearest number to a ratio, ties to an even mantissa
* `Binary64.ofInt?`, `Binary64.mul`, `Binary64.div`, `Binary64.tenTo`
* `Binary64.same` — numeric equality, for which both zeros are equal

## Design Notes

The mantissa has at most 53 bits and the exponent is at least `-1074`; a mantissa below `2 ^ 52`
occurs with that least exponent only. `roundRatio` answers in this form, hence equal numbers of
one sign have equal parts.
-/

namespace QuerySession

/-- The number `± mantissa · 2 ^ exponent`. -/
structure Binary64 where
  negative : Bool
  mantissa : Nat
  exponent : Int
  deriving DecidableEq

namespace Binary64

/-- The least exponent of the format. -/
def leastExponent : Int := -1074

/-- The greatest exponent of the format. -/
def greatestExponent : Int := 971

/-- The least mantissa of 53 bits, two to the 52. -/
def leastNormal : Nat := 0x10000000000000

/-- Zero with a sign. -/
def zero (negative : Bool) : Binary64 := ⟨negative, 0, leastExponent⟩

/-- Whether the number is one of the two zeros. -/
def isZero (x : Binary64) : Bool := x.mantissa == 0

/-- Numeric equality: the sign of zero does not count. -/
def same (x y : Binary64) : Bool := (x.isZero && y.isZero) || x == y

/-- The magnitude as a ratio of natural numbers. -/
def ratio (x : Binary64) : Nat × Nat :=
  if 0 ≤ x.exponent then (x.mantissa * Nat.pow 2 x.exponent.toNat, 1)
  else (x.mantissa, Nat.pow 2 (-x.exponent).toNat)

/-- Whether `num / den` rounds up from the quotient `q` with remainder `r`: above one half, or at
one half when `q` is odd. -/
def roundsUp (q r den : Nat) : Bool := den < 2 * r || (2 * r == den && q % 2 == 1)

/-- The ratio `num / den` in units of `2 ^ e`. -/
def inUnits (num den : Nat) (e : Int) : Nat × Nat :=
  if 0 ≤ e then (num, den * Nat.pow 2 e.toNat) else (num * Nat.pow 2 (-e).toNat, den)

/-- The exponent whose unit leaves `num / den` with 53 bits before the point, if the format goes
that low. -/
def unitFor (num den : Nat) : Int :=
  let guess := max ((num.log2 : Int) - (den.log2 : Int) - 53) leastExponent
  let (n, d) := inUnits num den guess
  if 2 * leastNormal ≤ n / d then guess + 1 else guess

/-- The number of the format nearest to `num / den`, ties to an even mantissa; `none` when it is
beyond the greatest. -/
def roundRatio (negative : Bool) (num den : Nat) : Option Binary64 :=
  if num = 0 then some (zero negative)
  else
    let e := unitFor num den
    let (n, d) := inUnits num den e
    let q := n / d
    let m := if roundsUp q (n % d) d then q + 1 else q
    let (m, e) := if m = 2 * leastNormal then (leastNormal, e + 1) else (m, e)
    if greatestExponent < e then none else some ⟨negative, m, e⟩

/-- The number nearest to an integer. -/
def ofInt? (n : Int) : Option Binary64 := roundRatio (n < 0) n.natAbs 1

/-- The rounded product. -/
def mul (x y : Binary64) : Option Binary64 :=
  roundRatio (x.negative != y.negative) (x.ratio.1 * y.ratio.1) (x.ratio.2 * y.ratio.2)

/-- The rounded quotient; `none` for a zero divisor. -/
def div (x y : Binary64) : Option Binary64 :=
  if y.isZero then none
  else roundRatio (x.negative != y.negative) (x.ratio.1 * y.ratio.2) (x.ratio.2 * y.ratio.1)

/-- The number nearest to a power of ten. -/
def tenTo (k : Nat) : Option Binary64 := roundRatio false (Nat.pow 10 k) 1

/-- The same magnitude with the other sign. -/
def neg (x : Binary64) : Binary64 := { x with negative := !x.negative }

end Binary64

end QuerySession
