/-!
# White space

The Unicode property `White_Space`. A type tag or a workspace name made of nothing else counts as
missing.

## Main Definitions

* `isBlank` — whether a character is white space
* `allBlank` — whether a text holds white space only; the empty text does
* `trim` — a text without the white space around it
-/

namespace QuerySession.Text

/-- Whether `c` has the property `White_Space`. -/
def isBlank (c : Char) : Bool :=
  let n := c.toNat
  (0x9 ≤ n && n ≤ 0xD) || n == 0x20 || n == 0x85 || n == 0xA0 || n == 0x1680 ||
    (0x2000 ≤ n && n ≤ 0x200A) || n == 0x2028 || n == 0x2029 || n == 0x202F ||
    n == 0x205F || n == 0x3000

/-- Whether a text has no character other than white space. -/
def allBlank (s : String) : Bool := s.toList.all isBlank

/-- The characters without the white space around them. -/
def trim (cs : List Char) : List Char :=
  ((cs.dropWhile isBlank).reverse.dropWhile isBlank).reverse

end QuerySession.Text
