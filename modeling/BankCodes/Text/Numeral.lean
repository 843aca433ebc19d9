/-!
# Numerals

Numbers as their digits: in base ten, or in any base at a fixed width with leading zeros.
-/

namespace BankCodes.Text

/-- The decimal digits of a number. -/
def numeral (n : Nat) : List Char := Nat.toDigits 10 n

/-- The digits of a number in a base up to sixteen, filled with zeros to the width. -/
def padded (base width n : Nat) : List Char := (Nat.toDigits base n).leftpad width '0'

/-- The number that a decimal numeral writes. -/
def numeralValue (cs : List Char) : Nat := Nat.ofDigitChars 10 cs 0

theorem numeral_ne_nil (n : Nat) : numeral n ≠ [] := Nat.toDigits_ne_nil

theorem isDigit_of_mem_numeral {n : Nat} {c : Char} (h : c ∈ numeral n) : c.isDigit = true :=
  Nat.isDigit_of_mem_toDigits (by decide) (by decide) h

theorem notMem_numeral {c : Char} (hc : c.isDigit = false) (n : Nat) : c ∉ numeral n := by
  intro h
  rw [isDigit_of_mem_numeral h] at hc
  cases hc

theorem numeralValue_numeral (n : Nat) : numeralValue (numeral n) = n :=
  Nat.ofDigitChars_ten_toDigits

end BankCodes.Text
