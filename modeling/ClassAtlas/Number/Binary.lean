/-!
# Binary numbers of 53 digits

A number with a fraction is kept as the nearest `mantissa · 2 ^ exponent` with at most 53 binary
digits and an exponent of at least -1074; a tie goes to the even mantissa, and what would need an
exponent above 971 is infinite. All arithmetic is exact, on natural numbers.
-/

namespace ClassAtlas.Number

/-- A non-negative binary number. -/
inductive Binary where
  /-- The number `mantissa · 2 ^ exponent`. -/
  | finite (mantissa : Nat) (exponent : Int)
  | infinite
deriving DecidableEq

/-- A fraction of natural numbers times a power of two, as numerator and denominator. -/
def scaleByTwo (num den : Nat) (exponent : Int) : Nat × Nat :=
  if 0 ≤ exponent then (num * Nat.pow 2 exponent.toNat, den)
  else (num, den * Nat.pow 2 (-exponent).toNat)

/-- The whole number nearest to `num / den`; a tie goes to the even one. -/
def roundDiv (num den : Nat) : Nat :=
  let q := num / den
  let r := num % den
  if 2 * r < den then q
  else if den < 2 * r then q + 1
  else if q % 2 = 0 then q else q + 1

namespace Binary

/-- The exponent with which `num / den` gets 53 binary digits, or the least one allowed. -/
def exponentFor (num den : Nat) : Int :=
  let guess : Int := (num.log2 : Int) - (den.log2 : Int) - 52
  let (n, d) := scaleByTwo num den (-guess)
  max (-1074) (if n < d * Nat.pow 2 52 then guess - 1 else guess)

/-- The binary number nearest to `num / den`. -/
def ofFraction (num den : Nat) : Binary :=
  if num = 0 || den = 0 then .finite 0 (-1074)
  else
    let exponent := exponentFor num den
    let (n, d) := scaleByTwo num den (-exponent)
    let mantissa := roundDiv n d
    let (mantissa, exponent) :=
      if mantissa = Nat.pow 2 53 then (Nat.pow 2 52, exponent + 1) else (mantissa, exponent)
    if 971 < exponent then .infinite else .finite mantissa exponent

/-- The binary number nearest to `digits · 10 ^ exponent`. Far outside the range of binary numbers
the answer does not depend on the digits. -/
def ofDecimal (digits : Nat) (exponent : Int) : Binary :=
  let magnitude : Int := (Nat.toDigits 10 digits).length + exponent
  if digits = 0 || magnitude < -400 then .finite 0 (-1074)
  else if 400 < magnitude then .infinite
  else if 0 ≤ exponent then ofFraction (digits * Nat.pow 10 exponent.toNat) 1
  else ofFraction digits (Nat.pow 10 (-exponent).toNat)

end Binary

end ClassAtlas.Number
