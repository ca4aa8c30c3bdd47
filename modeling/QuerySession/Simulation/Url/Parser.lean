import QuerySession.Net.Url
import QuerySession.Simulation.Url.Host

/-!
# The parser of simulated addresses

A parser for simulated runs. It reads addresses leniently, as people write them: with either slash,
with any number of them behind the scheme, with space around.

## Main Definitions

* `parser` — the parser

## Design Notes

The parser tells the texts that are addresses from those that are not, and has the wording for the
latter. Only the scheme is brought into its one form; the other parts are left as they are written,
since the network of a simulated world is silent.
-/

namespace QuerySession.SimulatedUrl

open Net

/-- The kinds of schemes that are read by rules of their own. -/
inductive SchemeKind where
  /-- A scheme of the web, whose addresses have a host. -/
  | web
  /-- Files of the computer. -/
  | file
  | other
  deriving DecidableEq

/-- The kind of a scheme. -/
def SchemeKind.of (scheme : String) : SchemeKind :=
  if ["http", "https", "ws", "wss", "ftp"].contains scheme then .web
  else if scheme = "file" then .file
  else .other

/-! ### Cutting -/

/-- Whether `c` is dropped at both ends of an address. -/
def isEdge (c : Char) : Bool := c.toNat ≤ 0x20

/-- Whether `c` is dropped wherever it stands. -/
def isBreak (c : Char) : Bool := c = '\t' || c = '\n' || c = '\r'

/-- The characters that count. -/
def cleaned (cs : List Char) : List Char :=
  (((cs.dropWhile isEdge).reverse.dropWhile isEdge).reverse).filter (!isBreak ·)

/-- The text before the first `mark`, and the text behind it. -/
def cutAt (mark : Char) (cs : List Char) : List Char × Option (List Char) :=
  (cs.takeWhile (· ≠ mark), (cs.dropWhile (· ≠ mark)).tail?)

/-- The text before the last at sign, and the text behind it. -/
def cutUser (cs : List Char) : List Char × List Char :=
  let host := (cs.reverse.takeWhile (· ≠ '@')).reverse
  (cs.take (cs.length - host.length - 1), host)

/-- An address from the texts of its parts. -/
def assemble (scheme : String) (user : List Char) (host : Option (List Char)) (port : Option Nat)
    (rest : List Char) : Url :=
  let (userName, password) := cutAt ':' user
  let (front, fragment) := cutAt '#' rest
  let (path, query) := cutAt '?' front
  { scheme, userName := String.ofList userName, password := password.map String.ofList
    host := host.map String.ofList, port, path := String.ofList path
    query := query.map String.ofList, fragment := fragment.map String.ofList }

/-! ### Reading -/

/-- Whether `c` may stand in a scheme behind its first letter. -/
def isSchemeChar (c : Char) : Bool := c.isAlphanum || c = '+' || c = '-' || c = '.'

/-- The scheme, in small letters, and what follows its colon. -/
def readScheme (cs : List Char) : Option (String × List Char) :=
  match cs.dropWhile isSchemeChar with
  | ':' :: rest =>
    if cs.head?.any Char.isAlpha then
      some (String.ofList ((cs.takeWhile isSchemeChar).map Char.toLower), rest)
    else none
  | _ => none

/-- Whether `c` is a slash; in some schemes a backslash is one, too. -/
def isSlash (kind : SchemeKind) (c : Char) : Bool := c = '/' || (c = '\\' && kind != .other)

/-- Whether `c` ends the part that holds host and port. -/
def endsHost (kind : SchemeKind) (c : Char) : Bool := isSlash kind c || c = '?' || c = '#'

/-- The host's text, up to the colon before a port; colons in brackets belong to the host. -/
def takeHost (inBrackets : Bool) : List Char → List Char × List Char
  | [] => ([], [])
  | c :: rest =>
    if c = ':' ∧ !inBrackets then ([], c :: rest)
    else
      let (host, rest) := takeHost (if c = '[' then true else if c = ']' then false else inBrackets)
        rest
      (c :: host, rest)

/-- A port behind its colon; an empty one stands for the scheme's own. -/
def readPort (cs : List Char) : Except Fault (Option Nat) :=
  if cs.all Char.isDigit then
    match Host.numberIn? 10 cs with
    | some n =>
      if cs = [] then .ok none
      else if n < 0x10000 then .ok (some n)
      else .error .invalidPort
    | none => .error .invalidPort
  else .error .invalidPort

/-- The host in the text before a port. -/
def readHost (kind : SchemeKind) (cs : List Char) : Except Fault Host :=
  match kind with
  | .other => Host.ofOpaqueText (String.ofList cs)
  | .web | .file => if cs = [] then .error .emptyHost else Host.ofText (String.ofList cs)

/-- An address with a host, behind the slashes. -/
def readAuthority (scheme : String) (kind : SchemeKind) (cs : List Char) : Except Fault Url := do
  let authority := cs.takeWhile (!endsHost kind ·)
  let rest := cs.dropWhile (!endsHost kind ·)
  let (user, hostPart) := cutUser authority
  if hostPart = [] ∧ authority ≠ [] ∧ user = [] ∧ rest ≠ [] then .error .emptyHost
  else
    let (hostText, tail) := takeHost false hostPart
    let host ← readHost kind hostText
    if host = .domain "" ∧ (tail ≠ [] ∨ user ≠ []) then .error .emptyHost
    else
      let port ← if tail = [] then .ok none else readPort tail.tail
      .ok (assemble scheme user (some hostText) port rest)

/-- Whether a text names a drive: a letter and a mark behind it. -/
def isDrive : List Char → Bool
  | [letter, mark] => letter.isAlpha && (mark = ':' || mark = '|')
  | _ => false

/-- An address of a file; it may name a host behind two slashes. -/
def readFile (cs : List Char) : Except Fault Url :=
  match cs with
  | a :: b :: behind =>
    if isSlash .file a && isSlash .file b then
      let hostText := behind.takeWhile (!endsHost .file ·)
      let rest := behind.dropWhile (!endsHost .file ·)
      if hostText = [] then .ok (assemble "file" [] none none rest)
      else if isDrive hostText then .ok (assemble "file" [] none none behind)
      else do
        let _ ← Host.ofText (String.ofList hostText)
        .ok (assemble "file" [] (some hostText) none rest)
    else .ok (assemble "file" [] none none cs)
  | _ => .ok (assemble "file" [] none none cs)

/-- The address that a text denotes. -/
def read (text : String) : Except Fault Url :=
  match readScheme (cleaned text.toList) with
  | none => .error .noScheme
  | some (scheme, cs) =>
    let kind := SchemeKind.of scheme
    match kind with
    | .web => readAuthority scheme kind (cs.dropWhile (isSlash kind))
    | .file => readFile cs
    | .other => match cs with
      | '/' :: '/' :: rest => readAuthority scheme kind rest
      | cs => .ok (assemble scheme [] none none cs)

/-- The parser of simulated addresses. -/
def parser : UrlParser where
  parse text := (read text).mapError Fault.message

end QuerySession.SimulatedUrl
