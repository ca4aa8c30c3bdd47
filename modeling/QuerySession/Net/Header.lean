import QuerySession.Text.LowerCase

/-!
# Header fields

Names and values of the header fields of requests and answers.

## Main Definitions

* `HeaderName` — a name; names are kept in small letters
* `isHeaderValue`, `isReadable` — texts that may be sent as values, and values that can be read as
  texts
-/

namespace QuerySession.Net

/-- Whether `c` may stand in a name. -/
def isTokenChar (c : Char) : Bool :=
  c.isAlphanum ||
    ['!', '#', '$', '%', '&', '\'', '*', '+', '-', '.', '^', '_', '\x60', '|', '~'].contains c

/-- Whether a text is a name: at least one character, all of them of the allowed ones. -/
def isToken (cs : List Char) : Bool := cs != [] && cs.all isTokenChar && cs.length < 0x10000

/-- The name of a header field, in small letters. -/
structure HeaderName where
  text : String
  deriving DecidableEq

/-- The name that a text denotes. -/
def HeaderName.ofText? (s : String) : Option HeaderName :=
  if isToken s.toList then some ⟨String.ofList (s.toList.map Char.toLower)⟩ else none

/-- Whether `c` may be sent in a value: everything but controls, of which the tab is allowed. -/
def isValueChar (c : Char) : Bool := c = '\t' || (0x20 ≤ c.toNat && c.toNat != 0x7F)

/-- Whether a text may be sent as a value. -/
def isHeaderValue (s : String) : Bool := s.toList.all isValueChar

/-- Whether a value can be read as a text: visible ASCII, space and tab only. -/
def isReadable (s : String) : Bool :=
  s.toList.all fun c => c = '\t' || (0x20 ≤ c.toNat && c.toNat < 0x7F)

end QuerySession.Net
