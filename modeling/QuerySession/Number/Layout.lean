import QuerySession.Number.Shortest

/-!
# Written numbers

Two ways of writing the shortest decimal of a floating-point number: `plain`, always positional and
without a point when there is nothing behind it, and `document`, which keeps a point and turns to
an exponent outside a middle range.

## Main Definitions

* `Layout` — what distinguishes the two ways
* `Layout.plain`, `Layout.document` — the two ways
* `Binary64.write` — a number in a given layout
-/

namespace QuerySession

/-- How a number is written. -/
structure Layout where
  /-- The decimal exponents, lower end included, upper end excluded, written positionally; `none`
  for all of them. -/
  positional : Option (Int × Int)
  /-- Whether a whole number ends in `.0`. -/
  keepPoint : Bool
  deriving DecidableEq

/-- Positional throughout. -/
def Layout.plain : Layout := ⟨none, false⟩

/-- Positional from the fifth place behind the point up to sixteen places before it. -/
def Layout.document : Layout := ⟨some (-5, 16), true⟩

namespace Binary64

/-- The digits of a natural number in base 10. -/
def decimalDigits (n : Nat) : List Char := Nat.toDigits 10 n

/-- Digits with a point: the digits `ds` stand for `ds · 10 ^ scale`. -/
def positional (ds : List Char) (scale : Int) (keepPoint : Bool) : List Char :=
  if 0 ≤ scale then
    ds ++ List.replicate scale.toNat '0' ++ (if keepPoint then ['.', '0'] else [])
  else
    let behind := (-scale).toNat
    if behind < ds.length then
      ds.take (ds.length - behind) ++ '.' :: ds.drop (ds.length - behind)
    else ['0', '.'] ++ List.replicate (behind - ds.length) '0' ++ ds

/-- One digit before the point and the exponent behind an `e`. -/
def scientific (ds : List Char) (exponent : Int) : List Char :=
  let mark := if exponent < 0 then ['e', '-'] else ['e', '+']
  let tail := match ds.drop 1 with
    | [] => []
    | rest => '.' :: rest
  ds.take 1 ++ tail ++ mark ++ decimalDigits exponent.natAbs

/-- The text of a number in the given layout. -/
def write (layout : Layout) (x : Binary64) : String :=
  let d := x.shortest
  let ds := decimalDigits d.digits
  let exponent : Int := d.scale + (ds.length : Int) - 1
  let body := match layout.positional with
    | some (low, high) =>
      if low ≤ exponent ∧ exponent < high then positional ds d.scale layout.keepPoint
      else scientific ds exponent
    | none => positional ds d.scale layout.keepPoint
  String.ofList ((if x.negative then ['-'] else []) ++ body)

end Binary64

end QuerySession
