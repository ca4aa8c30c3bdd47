import QuerySession.Text.Quoted.Data
import QuerySession.Text.Ranges

/-!
# Quoted texts

The form in which a text appears inside a description of a value: between double quotes, with
quotes and backslashes escaped and every character without a visible shape spelled out by its code.

## Main Definitions

* `quoted` — the quoted form of a text
-/

namespace QuerySession.Text

/-- The digits of `n` in base 16, in small letters, at least one. -/
def hexDigits (n : Nat) : List Char := Nat.toDigits 16 n

/-- Whether `c` has no visible shape of its own. -/
def isHidden (c : Char) : Bool :=
  c.toNat < 0x20 || c.toNat == 0x7F || inRanges hiddenRanges c.toNat

/-- How `c` is written between double quotes. -/
def quotedChar (c : Char) : List Char :=
  if c = '"' then ['\\', '"']
  else if c = '\\' then ['\\', '\\']
  else if c = '\t' then ['\\', 't']
  else if c = '\r' then ['\\', 'r']
  else if c = '\n' then ['\\', 'n']
  else if c.toNat = 0 then ['\\', '0']
  else if isHidden c then ['\\', 'u', '\x7b'] ++ hexDigits c.toNat ++ ['\x7d']
  else [c]

/-- The quoted form of a text. -/
def quoted (s : String) : String := String.ofList ('"' :: s.toList.flatMap quotedChar ++ ['"'])

end QuerySession.Text
