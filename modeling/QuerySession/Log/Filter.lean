import QuerySession.Keyed
import QuerySession.Log.Event
import QuerySession.Text.Alphanumeric
import QuerySession.Text.Blank
import QuerySession.Text.LowerCase
import QuerySession.Text.Split

/-!
# Log filters

Which events are logged. A directive gives a limit to the targets that begin with its own; for an
event the directive with the longest target counts, and an event that no directive speaks of is not
logged. Directives are written `limit`, `target` or `target=limit`, with commas between them.

## Main Definitions

* `LogLimit` — the least severe level that is logged
* `Directive`, `Directive.ofText` — a rule and its written form
* `Filter`, `Filter.allows` — the rules together, and their verdict

## Design Notes

The white space around a directive is passed over when its parts are looked for, but the parts are
cut out of the text with the white space; a directive with a blank in front therefore means little.
Directives may be narrowed to spans by a part in brackets; they say nothing about events outside of
all spans.
-/

namespace QuerySession

/-- The least severe level that is logged. -/
inductive LogLimit where
  | off
  | upTo (level : Level)
  deriving DecidableEq

namespace LogLimit

/-- Whether events of a level are logged. -/
def allows (limit : LogLimit) (level : Level) : Bool :=
  match limit with
  | .off => false
  | .upTo last => level.rank ≤ last.rank

/-- The limits in the order of their numbers, with their names. -/
def named : List (String × LogLimit) := [
  ("off", .off), ("error", .upTo .error), ("warn", .upTo .warn), ("info", .upTo .info),
  ("debug", .upTo .debug), ("trace", .upTo .trace)]

/-- The number that decimal digits stand for, perhaps behind a plus sign. -/
def numberOf? (text : String) : Option Nat :=
  let digits := match text.toList with
    | '+' :: digits => digits
    | digits => digits
  if digits = [] ∨ !digits.all Char.isDigit then none
  else some (digits.foldl (fun n c => 10 * n + (c.toNat - '0'.toNat)) 0)

/-- The limit that a text stands for: by number, or by name in any letter case. -/
def ofText? (text : String) : Option LogLimit :=
  match (numberOf? text).bind fun n => named[n]? with
  | some (_, limit) => some limit
  | none =>
    if text = "" then some (.upTo .error)
    else (named.find? fun e => Text.equalUpToAsciiCase e.1 text).map (·.2)

end LogLimit

/-- A rule about some targets. -/
structure Directive where
  /-- The beginning of the targets it speaks of; all targets when there is none. -/
  target : Option String
  limit : LogLimit
  /-- Whether it speaks of some spans only. -/
  narrowed : Bool
  deriving DecidableEq

namespace Directive

/-- Why a directive cannot be read. -/
inductive Fault where
  | malformed
  | badLimit
  deriving DecidableEq

/-- The wording. -/
def Fault.message : Fault → String
  | malformed => "invalid filter directive"
  | badLimit => "error parsing level filter: expected one of \"off\", \"error\", \"warn\", " ++
      "\"info\", \"debug\", \"trace\", or a number 0-5"

/-- The part of a directive that is being read. -/
inductive Part where
  | start
  | head
  | span
  | field (isEmpty : Bool)
  | fieldsEnd
  | spanEnd
  /-- The limit behind the equals sign, from a position on. -/
  | limit (first : Nat)
  | done
  deriving DecidableEq

/-- Whether a directive may begin with a character, other than a bracket. -/
def startsHead (c : Char) : Bool := c == '-' || c == ':' || c == '_' || Text.isAlphanumeric c

/-- The characters between two positions. -/
def cut (whole : List Char) (first last : Nat) : String :=
  String.ofList ((whole.take last).drop first)

/-- A text that is a whole directive: a limit for all targets, or else a target without limit. -/
def ofHead (d : Directive) (whole : List Char) : Directive :=
  let text := String.ofList whole
  match LogLimit.ofText? text with
  | some limit => { d with limit }
  | none => { d with target := some text }

/-- A directive with the limit that a text stands for; no text means no limit. -/
def withLimit (d : Directive) (text : String) : Except Fault Directive :=
  if text = "" then .ok { d with limit := .upTo .trace }
  else match LogLimit.ofText? text with
    | some limit => .ok { d with limit }
    | none => .error .badLimit

/-- Read the character `c` at position `i` of a directive that is `whole` with white space. -/
def step (whole : List Char) (i : Nat) (c : Char) (d : Directive) :
    Part → Except Fault (Part × Directive)
  | .start =>
    if c = '[' then .ok (.span, d)
    else if startsHead c then .ok (.head, d)
    else .error .malformed
  | .head =>
    if c = '=' then .ok (.limit (i + 1), { d with target := some (cut whole 0 i) })
    else if c = '[' then .ok (.span, { d with target := some (cut whole 0 i) })
    else if c = ',' then .ok (.done, ofHead d whole)
    else .ok (.head, d)
  | .span =>
    if c = ']' then .ok (.spanEnd, { d with narrowed := true })
    else if c = '\x7b' then .ok (.field true, { d with narrowed := true })
    else .ok (.span, d)
  | .field isEmpty =>
    if c = '\x7d' then if isEmpty then .error .malformed else .ok (.fieldsEnd, d)
    else if c = ',' then if isEmpty then .error .malformed else .ok (.field true, d)
    else .ok (.field false, d)
  | .fieldsEnd => if c = ']' then .ok (.spanEnd, d) else .error .malformed
  | .spanEnd => if c = '=' then .ok (.limit (i + 1), d) else .error .malformed
  | .limit first =>
    if c = ',' then do .ok (.done, ← d.withLimit (cut whole first i)) else .ok (.limit first, d)
  | .done => .error .malformed

/-- Read what is left of a directive, from position `i` on. -/
def read (whole : List Char) (i : Nat) (part : Part) (d : Directive) :
    List Char → Except Fault (Part × Directive)
  | [] => .ok (part, d)
  | c :: rest => do
    let (part, d) ← step whole i c d part
    read whole (i + 1) part d rest

/-- The directive that a text stands for. -/
def ofText (text : String) : Except Fault Directive := do
  let whole := text.toList
  let (part, d) ← read whole 0 .start ⟨none, .upTo .trace, false⟩ (Text.trim whole)
  match part with
  | .head => .ok (ofHead d whole)
  | .limit first => d.withLimit (cut whole first whole.length)
  | .spanEnd | .done => .ok d
  | .start | .span | .field _ | .fieldsEnd => .error .malformed

end Directive

/-- Directives together. -/
structure Filter where
  /-- The limits of the directives that hold for all spans, by target. -/
  limits : Keyed (Option String) LogLimit
  /-- Whether there are directives for some spans only. -/
  hasNarrowed : Bool
  deriving DecidableEq

namespace Filter

/-- No directives. -/
def empty : Filter := ⟨.empty, false⟩

/-- Whether there are no directives. -/
def isEmpty (f : Filter) : Bool := f.limits.isEmpty && !f.hasNarrowed

/-- Add a directive; it takes the place of one with the same target. -/
def add (f : Filter) (d : Directive) : Filter :=
  if d.narrowed then { f with hasNarrowed := true }
  else { f with limits := f.limits.put d.target d.limit }

/-- The written directives in a text. -/
def pieces (text : String) : List String := (Text.split ',' text).filter (· ≠ "")

/-- The filter that a text stands for, if all its directives can be read. -/
def ofText? (text : String) : Option Filter :=
  match (pieces text).mapM Directive.ofText with
  | .ok directives => some (directives.foldl add empty)
  | .error _ => none

/-- The filter of the directives in a text that can be read; only errors are logged when there is
none. -/
def ofReadable (text : String) : Filter :=
  let f := ((pieces text).filterMap fun piece => (Directive.ofText piece).toOption).foldl add empty
  if f.isEmpty then f.add ⟨none, .upTo .error, false⟩ else f

/-- Whether a directive with the target `own` speaks of a target. -/
def covers (own : Option String) (target : String) : Bool :=
  match own with
  | none => true
  | some own => own.toList.isPrefixOf target.toList

/-- Whether a directive with the target `a` says more than one with the target `b`. -/
def isLonger : Option String → Option String → Bool
  | some a, some b => b.utf8ByteSize < a.utf8ByteSize
  | some _, none => true
  | none, _ => false

/-- The one of two directives that says more; the first of two that say as much. -/
def moreSpecific (best : Option (Option String × LogLimit)) (e : Option String × LogLimit) :
    Option (Option String × LogLimit) :=
  match best with
  | none => some e
  | some b => if isLonger e.1 b.1 then some e else some b

/-- The limit for a target. -/
def limitFor (f : Filter) (target : String) : LogLimit :=
  match (f.limits.entries.filter (covers ·.1 target)).foldl moreSpecific none with
  | some (_, limit) => limit
  | none => .off

/-- Whether events of a target and a level are logged. -/
def allows (f : Filter) (target : String) (level : Level) : Bool :=
  (f.limitFor target).allows level

end Filter

end QuerySession
