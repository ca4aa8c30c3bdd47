import Mathlib.Data.List.Basic

/-!
# Digits of counts

A count is written without a needless zero in front, and what its digits add up to is the count.

## Main Results

* `foldl_toDigits` — the digits add up to the count
* `head?_toDigits` — a zero in front is the whole count
-/

namespace QuerySession

theorem isDigit_of_mem_toDigits {n : Nat} {c : Char} (mem : c ∈ Nat.toDigits 10 n) :
    c.isDigit = true := Nat.isDigit_of_mem_toDigits (by decide) (by decide) mem

/-- The digits of a count add up to it, whoever gives them their values. -/
theorem foldl_toDigits {value : Char → Nat}
    (value_eq : ∀ d, d.isDigit = true → value d = d.toNat - '0'.toNat) (n : Nat) :
    (Nat.toDigits 10 n).foldl (fun sum d => sum * 10 + value d) 0 = n := by
  have folded : (Nat.toDigits 10 n).foldl (fun sum d => sum * 10 + value d) 0 =
      Nat.ofDigitChars 10 (Nat.toDigits 10 n) 0 := by
    rw [Nat.ofDigitChars_eq_foldl]
    apply List.foldl_ext
    intro sum d mem
    rw [value_eq d (isDigit_of_mem_toDigits mem), Nat.mul_comm sum]
  rw [folded, Nat.ofDigitChars_ten_toDigits]

/-- Counts are written without a needless zero in front. -/
theorem head?_toDigits (n : Nat) (zero : (Nat.toDigits 10 n).head? = some '0') : n = 0 := by
  induction n using Nat.strongRecOn with
  | ind n ih =>
    rcases Nat.lt_or_ge n 10 with small | large
    · rw [Nat.toDigits_of_lt_base small] at zero
      have only : ∀ n < 10, Nat.digitChar n = '0' → n = 0 := by decide
      exact only n small (Option.some.inj zero)
    · rw [Nat.toDigits_of_base_le (by decide) large,
        List.head?_append_of_ne_nil _ Nat.toDigits_ne_nil] at zero
      have := ih (n / 10) (by omega) zero
      omega

end QuerySession
