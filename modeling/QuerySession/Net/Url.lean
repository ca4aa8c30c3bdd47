/-!
# Addresses

Uniform resource locators by their parts, and what reads them.

## Main Definitions

* `Url` — the parts
* `UrlParser` — what reads a text

## Design Notes

Which texts are addresses, and how a host is brought into its one form, is for the URL standard and
the Unicode tables that it refers to, whose editions differ.  What depends on reading an address
takes the parser from outside and relies on nothing but that equal texts are read alike.
-/

namespace QuerySession.Net

/-- A uniform resource locator by its parts, as a parser leaves them. -/
structure Url where
  scheme : String
  /-- The name of a user, before the host; empty if none is given. -/
  userName : String
  /-- The password behind the name of the user. -/
  password : Option String
  host : Option String
  /-- The port, unless it is the scheme's own. -/
  port : Option Nat
  path : String
  query : Option String
  fragment : Option String
  deriving DecidableEq

/-- A parser of addresses: what a text denotes, or in words why it denotes nothing. -/
structure UrlParser where
  parse : String → Except String Url

end QuerySession.Net
