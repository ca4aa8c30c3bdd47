import Mathlib.Tactic.SplitIfs
import QuerySession.Json.Token
import QuerySession.Proofs.Number.Digits

/-!
# Texts and whole numbers of documents are read back

A text is read back a character at a time, whatever it holds: what cannot stand for itself between
quotes is written as an escape, and every escape that is written is read as the character.  A whole
number is read back from its digits, up to what goes on with the document behind them, as long as it
fits into 64 bits; it stays a whole number.

## Main Definitions

* `Json.Closed` — what may stand behind a value of a document

## Main Results

* `Json.readText_written` — a text is read back
* `Json.readNumber_count`, `Json.readNumber_negative` — a whole number is read back behind its sign
-/

namespace QuerySession.Json

variable {c : Char} {cs rest tail : List Char} {n : Nat}

/-! ## Texts -/

theorem before_ok : before c (.ok (cs, rest)) = .ok (c :: cs, rest) := rfl

/-- Controls have codes of four digits. -/
theorem hexQuad?_control : ∀ n < 32,
    hexQuad? '0' '0' (Nat.digitChar (n / 16)) (Nat.digitChar (n % 16)) = some n := by decide

/-- The code of a control is read as the control. -/
theorem readText_code (control : c.toNat < 0x20) (tail : List Char) :
    readText true ('\\' :: 'u' :: '0' :: '0' :: Nat.digitChar (c.toNat / 16) ::
      Nat.digitChar (c.toNat % 16) :: tail) = before c (readText true tail) := by
  have noTrail : isTrailing c.toNat = false := by simp [isTrailing]; omega
  have noLead : isLeading c.toNat = false := by simp [isLeading]; omega
  rw [readText, hexQuad?_control c.toNat control]
  simp only [noTrail, noLead, Bool.not_true, Bool.not_false, Bool.false_eq_true, if_true, if_false,
    Char.ofNat_toNat]

/-- A character stands for itself, if it is no quote, backslash or control. -/
theorem readText_plain (quote : c ≠ '"') (backslash : c ≠ '\\') (shown : ¬c.toNat < 0x20)
    (tail : List Char) : readText true (c :: tail) = before c (readText true tail) := by
  rw [readText]
  · exact if_neg shown
  all_goals simp [quote, backslash]

/-- Every character is read back from how it is written. -/
theorem readText_escapeChar (c : Char) (tail : List Char) :
    readText true (escapeChar c ++ tail) = before c (readText true tail) := by
  have named {n : Nat} (h : c.toNat = n) : c = Char.ofNat n := by rw [← h, Char.ofNat_toNat]
  -- There is a reading for every way in which a character is written.
  unfold escapeChar
  split_ifs with quote backslash newline ret tab backspace feed control
  · subst quote
    rfl
  · subst backslash
    rfl
  · subst newline
    rfl
  · subst ret
    rfl
  · subst tab
    rfl
  · rw [named backspace]
    rfl
  · rw [named feed]
    rfl
  · exact readText_code control tail
  · exact readText_plain quote backslash control tail

/-- **A text is read back**, up to the quote behind it. -/
theorem readText_written (cs rest : List Char) :
    readText true (cs.flatMap escapeChar ++ '"' :: rest) = .ok (cs, rest) := by
  induction cs with
  | nil => rfl
  | cons c cs ih => rw [List.flatMap_cons, List.append_assoc, readText_escapeChar, ih, before_ok]

/-- A text as it is written: behind a quote, and in front of another one. -/
theorem toList_writeStr (s : String) (rest : List Char) :
    (writeStr s).toList ++ rest = '"' :: (s.toList.flatMap escapeChar ++ '"' :: rest) := by
  rw [writeStr, String.toList_ofList, List.append_assoc]
  rfl

/-! ## Whole numbers -/

/-- What may stand behind a value: the end of the document, or what goes on with a list or an
object. -/
def Closed (rest : List Char) : Prop :=
  ∀ c more, rest = c :: more → c = ',' ∨ c = ']' ∨ c = '\x7d'

theorem closed_nil : Closed [] := by rintro _ _ ⟨⟩

theorem closed_cons (last : c = ',' ∨ c = ']' ∨ c = '\x7d') (tail : List Char) :
    Closed (c :: tail) := by
  rintro _ _ ⟨⟩
  exact last

/-- No number goes on behind a value. -/
theorem Closed.ends (closed : Closed (c :: tail)) :
    c.isDigit = false ∧ c ≠ '.' ∧ c ≠ 'e' ∧ c ≠ 'E' := by
  rcases closed c tail rfl with rfl | rfl | rfl <;> decide

/-- Digits are taken as a whole. -/
theorem readDigits_append (some_ : cs ≠ []) (digits : ∀ d ∈ cs, d.isDigit = true)
    (closed : Closed rest) : readDigits true (cs ++ rest) = .ok (cs, rest) := by
  have last : rest.takeWhile Char.isDigit = [] ∧ rest.dropWhile Char.isDigit = rest := by
    rcases rest with _ | ⟨c, more⟩
    · exact ⟨rfl, rfl⟩
    · rw [List.takeWhile_cons, List.dropWhile_cons, closed.ends.1]
      exact ⟨rfl, rfl⟩
  unfold readDigits
  rw [List.takeWhile_append_of_pos digits, List.dropWhile_append_of_pos digits, last.1, last.2,
    List.append_nil]
  split
  · contradiction
  · rfl

/-- The digits of a count are read in front of the end of a value. -/
theorem readWhole_toDigits (n : Nat) (closed : Closed rest) :
    readWhole true (Nat.toDigits 10 n ++ rest) = .ok (Nat.toDigits 10 n, rest) := by
  have read : readDigits true (Nat.toDigits 10 n ++ rest) = .ok (Nat.toDigits 10 n, rest) :=
    readDigits_append Nat.toDigits_ne_nil (fun _ => isDigit_of_mem_toDigits) closed
  unfold readWhole
  split
  · -- A zero in front is all of the digits.
    rename_i more same
    have zero : n = 0 := by
      apply head?_toDigits
      have front := congrArg List.head? same
      rwa [List.head?_append_of_ne_nil _ Nat.toDigits_ne_nil] at front
    subst zero
    obtain rfl : rest = more := (List.cons.inj same).2
    split
    · rename_i c more
      rw [closed.ends.1]
      rfl
    · rfl
  · exact read

/-- No point and no exponent stands behind a value. -/
theorem readFraction_of_closed (closed : Closed rest) :
    readFraction true rest = .ok (none, rest) := by
  unfold readFraction
  split
  · exact absurd rfl closed.ends.2.1
  · rfl

theorem readExponent_of_closed (closed : Closed rest) :
    readExponent true rest = .ok (none, rest) := by
  unfold readExponent
  split
  · obtain ⟨-, -, lower, upper⟩ := closed.ends
    exact if_neg (not_or.mpr ⟨lower, upper⟩)
  · rfl

theorem readNumeral_toDigits (negative : Bool) (n : Nat) (closed : Closed rest) :
    readNumeral true negative (Nat.toDigits 10 n ++ rest) =
      .ok (⟨negative, Nat.toDigits 10 n, none, none⟩, rest) := by
  unfold readNumeral
  simp only [readWhole_toDigits n closed, bind, Except.bind, readFraction_of_closed closed,
    readExponent_of_closed closed]
  rfl

/-- A significand only grows. -/
theorem le_foldl_digits (s : Nat) (cs : List Char) :
    s ≤ cs.foldl (fun sum d => sum * 10 + digitValue d) s := by
  induction cs generalizing s with
  | nil => exact Nat.le_refl s
  | cons d cs ih => exact Nat.le_trans (by omega) (ih (s * 10 + digitValue d))

/-- Digits are all taken if what they add up to fits. -/
theorem takeWhole_eq {s : Nat}
    (fits : cs.foldl (fun sum d => sum * 10 + digitValue d) s ≤ greatestSignificand) :
    takeWhole s cs = (cs.foldl (fun sum d => sum * 10 + digitValue d) s, 0) := by
  induction cs generalizing s with
  | nil => rfl
  | cons d cs ih =>
    have next : s * 10 + digitValue d ≤ greatestSignificand :=
      Nat.le_trans (le_foldl_digits _ cs) fits
    rw [takeWhole, if_pos next, ih fits]
    rfl

theorem takeWhole_toDigits (fits : n ≤ greatestSignificand) :
    takeWhole 0 (Nat.toDigits 10 n) = (n, 0) := by
  have value : (Nat.toDigits 10 n).foldl (fun sum d => sum * 10 + digitValue d) 0 = n :=
    foldl_toDigits (fun _ _ => rfl) n
  rw [takeWhole_eq (Nat.le_trans (Nat.le_of_eq value) fits), value]

/-- **A count is read back**, if it fits into 64 bits. -/
theorem readNumber_count (fits : n ≤ greatestSignificand) (closed : Closed rest) :
    readNumber false (Nat.toDigits 10 n ++ rest) = .ok (.whole n, rest) := by
  have value : Numeral.value ⟨false, Nat.toDigits 10 n, none, none⟩ = .ok (.whole n) := by
    simp [Numeral.value, takeWhole_toDigits fits]
  simp only [readNumber, readNumeral_toDigits false n closed, bind, Except.bind, value]
  rfl

/-- **A negative whole number is read back** behind its sign, if it fits into 64 bits. -/
theorem readNumber_negative (some_ : n ≠ 0) (fits : n ≤ 0x8000000000000000)
    (closed : Closed rest) :
    readNumber true (Nat.toDigits 10 n ++ rest) = .ok (.whole (-n), rest) := by
  have small : n ≤ greatestSignificand := Nat.le_trans fits (by decide)
  have value : Numeral.value ⟨true, Nat.toDigits 10 n, none, none⟩ = .ok (.whole (-n)) := by
    simp [Numeral.value, takeWhole_toDigits small, some_, fits]
  simp only [readNumber, readNumeral_toDigits true n closed, bind, Except.bind, value]
  rfl

end QuerySession.Json
