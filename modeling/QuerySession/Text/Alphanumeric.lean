import QuerySession.Text.Alphanumeric.Data
import QuerySession.Text.Ranges

/-!
# Letters and digits

The characters that a name may start with, in any script.

## Main Definitions

* `isAlphanumeric` — whether a character is a letter or a digit
-/

namespace QuerySession.Text

/-- Whether `c` is a letter or a digit of any script. -/
def isAlphanumeric (c : Char) : Bool :=
  if c.toNat < 0x80 then c.isAlphanum else inRanges alphanumericRanges c.toNat

end QuerySession.Text
