import BankCodes.Text.Numeral

/-!
# Decimal fractions and powers of ten

A whole number may be asked for in the notations of floating-point numbers. It is first taken for
the double-precision number nearest to it, which is a whole number again, and then written exactly:
with decimals behind a point, or with one digit before the point and the power of ten behind.
-/

namespace BankCodes.Text

/-- The whole number nearest to a quotient, the even one of two. -/
def nearestQuotient (n d : Nat) : Nat :=
  let below := n / d
  let rest := n % d
  if 2 * rest < d || (2 * rest == d && below % 2 == 0) then below else below + 1

/-- The double-precision number nearest to a whole number: 53 binary digits are kept. -/
def nearestDouble (n : Nat) : Nat :=
  let unit := Nat.pow 2 (n.log2 - 52)
  nearestQuotient n unit * unit

/-- The number from which on none is in the range of double precision. -/
def doubleLimit : Nat := Nat.pow 2 1024

/-- Decimals behind their point. Without decimals there is a point only if it is asked for. -/
def behindPoint (alwaysPoint : Bool) (decimals : List Char) : List Char :=
  if decimals.isEmpty && !alwaysPoint then [] else '.' :: decimals

/-- A whole number with so many decimals, all of them zero. -/
def fixedText (alwaysPoint : Bool) (decimals n : Nat) : List Char :=
  numeral n ++ behindPoint alwaysPoint (List.replicate decimals '0')

/-- The number cut to so many digits from its first one on, and the power of ten of this digit. -/
def leadingDigits (digits n : Nat) : Nat × Nat :=
  let power := (numeral n).length - 1
  let cut :=
    if power < digits then n * Nat.pow 10 (digits - 1 - power)
    else nearestQuotient n (Nat.pow 10 (power + 1 - digits))
  if cut = Nat.pow 10 digits then (cut / 10, power + 1) else (cut, power)

/-- Digits as one digit and decimals, with the power of ten behind the letter. -/
def powerText (alwaysPoint : Bool) (letter : Char) (power : Nat) (digits : List Char) : List Char :=
  digits.take 1 ++ behindPoint alwaysPoint (digits.drop 1) ++ letter :: '+' :: padded 10 2 power

/-- The digits without the zeros at the end, but never without the first one. -/
def withoutLastZeros (digits : List Char) : List Char :=
  digits.take 1 ++ ((digits.drop 1).reverse.dropWhile (· == '0')).reverse

/-- A whole number as one digit with so many decimals and a power of ten. -/
def scientificText (alwaysPoint : Bool) (letter : Char) (decimals n : Nat) : List Char :=
  let (cut, power) := leadingDigits (decimals + 1) n
  powerText alwaysPoint letter power (padded 10 (decimals + 1) cut)

/-- A whole number in the shorter of the two notations, with so many digits in all. Zeros behind the
point are written only if the point is always to be there. -/
def generalText (alwaysPoint : Bool) (letter : Char) (digits n : Nat) : List Char :=
  let digits := max digits 1
  let (cut, power) := leadingDigits digits n
  if power < digits then
    fixedText alwaysPoint (if alwaysPoint then digits - 1 - power else 0) n
  else
    let all := padded 10 digits cut
    powerText alwaysPoint letter power (if alwaysPoint then all else withoutLastZeros all)

end BankCodes.Text
