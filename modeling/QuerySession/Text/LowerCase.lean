import QuerySession.Text.LowerCase.Data
import QuerySession.Text.Ranges

/-!
# Lower-casing

Names of properties, options and temporary tables are compared by their full Unicode lower-casing.
One letter at a time suffices but for two cases: the dotted capital I becomes a small i followed by
a combining dot, and a capital sigma becomes a final sigma at the end of a word. Type tags and
workspace names are compared by ASCII case only (`equalUpToAsciiCase`).

## Main Definitions

* `lowerCase` — the lower-casing of a text
* `equalUpToAsciiCase` — equality of texts whose ASCII letters may differ in case
-/

namespace QuerySession.Text

/-- Whether casing looks through `c` when it searches for a neighbouring letter. -/
def isCaseIgnorable (c : Char) : Bool := inRanges ignorableRanges c.toNat

/-- Whether `c` is a letter with case. -/
def isCased (c : Char) : Bool := inRanges casedRanges c.toNat

/-- The lower case of `c` wherever it stands. -/
def lowerChar (c : Char) : List Char :=
  if c.toNat < 0x80 then [c.toLower]
  else if c = 'İ' then ['i', '\u0307']
  else match capitalRuns.findSome? (·.small? c.toNat) with
    | some code => [Char.ofNat code]
    | none => [c]

/-- Whether the nearest character that casing does not look through is a letter with case. -/
def meetsLetter (cs : List Char) : Bool :=
  match cs.dropWhile isCaseIgnorable with
  | c :: _ => isCased c
  | [] => false

/-- The small form of a capital sigma: final when a letter stands before it and none after. -/
def smallSigma (before after : List Char) : Char :=
  if meetsLetter before && !meetsLetter after then 'ς' else 'σ'

/-- Lower-case a text whose characters so far, last one first, are `before`. -/
def lowerFrom (before : List Char) : List Char → List Char
  | [] => []
  | c :: after =>
    (if c = 'Σ' then [smallSigma before after] else lowerChar c) ++ lowerFrom (c :: before) after

/-- The lower-casing of a text. -/
def lowerCase (s : String) : String := String.ofList (lowerFrom [] s.toList)

/-- Whether two texts are the same once their ASCII letters are made small. -/
def equalUpToAsciiCase (s t : String) : Bool :=
  s.toList.map Char.toLower == t.toList.map Char.toLower

end QuerySession.Text
