import ClassAtlas.Number.Binary

/-!
# The shortest decimal text

A binary number is written with the fewest decimal digits that read back as the same number, and of
those with the nearest. Numbers from 0.0001 up to (not including) 10 ^ 16 are written with a point,
all others with an exponent of at least two digits.
-/

namespace ClassAtlas.Number

/-- Decimal digits `d₁ d₂ …` with the place of the point: the number is `0.d₁d₂… · 10 ^ point`. -/
structure Decimal where
  digits : List Char
  point : Int

/-- Ten to an integer power, as numerator and denominator. -/
def powTen (k : Int) : Nat × Nat :=
  if 0 ≤ k then (Nat.pow 10 k.toNat, 1) else (1, Nat.pow 10 (-k).toNat)

/-- The number of digits in front of the point of `num / den` (zero or less for small numbers): the
least `k` from the guess on with `num / den < 10 ^ k`, looking at most `fuel` places further. -/
def pointOf (num den : Nat) : Nat → Int → Int
  | 0, k => k
  | fuel + 1, k =>
    let (p, q) := powTen k
    if num * q < den * p then k else pointOf num den fuel (k + 1)

/-- A lower bound for `pointOf`, from the number of binary digits. -/
def pointGuess (num den : Nat) : Int :=
  ((num.log2 : Int) - (den.log2 : Int) - 1) * 3 / 10 - 2

/-- The decimal of `count` digits nearest to `num / den` that reads back as `value`, if there is
one; `point` is the place of the point of `num / den`. -/
def withDigits? (value : Binary) (num den : Nat) (point : Int) (count : Nat) : Option (Nat × Int) :=
  let shift : Int := count - point
  let (p, q) := powTen shift
  let n := num * p
  let d := den * q
  let low := n / d
  let readsBack := fun digits => Binary.ofDecimal digits (-shift) == value
  match readsBack low, readsBack (low + 1) with
  | true, true => some (if 2 * (n % d) ≤ d then low else low + 1, -shift)
  | true, false => some (low, -shift)
  | false, true => some (low + 1, -shift)
  | false, false => none

/-- The first answer for `count`, `count + 1`, … digits. -/
def firstDigits? (value : Binary) (num den : Nat) (point : Int) : Nat → Nat → Option (Nat × Int)
  | 0, _ => none
  | fuel + 1, count =>
    match withDigits? value num den point count with
    | some found => some found
    | none => firstDigits? value num den point fuel (count + 1)

/-- Removes zeros at the end. -/
def dropZeros (digits : List Char) : List Char :=
  (digits.reverse.dropWhile (· == '0')).reverse

/-- The shortest decimal of a finite number other than zero; 17 digits always suffice. -/
def shortest (mantissa : Nat) (exponent : Int) : Decimal :=
  let (num, den) := scaleByTwo mantissa 1 exponent
  let point := pointOf num den 20 (pointGuess num den)
  match firstDigits? (.finite mantissa exponent) num den point 17 1 with
  | some (n, scale) =>
    let digits := Nat.toDigits 10 n
    ⟨dropZeros digits, digits.length + scale⟩
  | none => ⟨['0'], 1⟩

/-- An exponent with its sign and at least two digits. -/
def exponentText (e : Int) : List Char :=
  let digits := Nat.toDigits 10 e.natAbs
  let padded := if digits.length < 2 then '0' :: digits else digits
  (if e < 0 then '-' else '+') :: padded

/-- Writes a decimal; `whole` is what follows the digits of a whole number. -/
def Decimal.text (d : Decimal) (whole : List Char) : List Char :=
  let count : Int := d.digits.length
  if d.point ≤ -4 || 16 < d.point then
    let mantissa := match d.digits with
      | first :: second :: rest => first :: '.' :: second :: rest
      | digits => digits
    mantissa ++ 'e' :: exponentText (d.point - 1)
  else if d.point ≤ 0 then
    '0' :: '.' :: List.replicate (-d.point).toNat '0' ++ d.digits
  else if count ≤ d.point then
    d.digits ++ List.replicate (d.point - count).toNat '0' ++ whole
  else
    d.digits.take d.point.toNat ++ '.' :: d.digits.drop d.point.toNat

/-- The text of a binary number; `whole` follows a whole number, `infinity` is the text of the
infinite one. -/
def Binary.text (whole infinity : String) : Binary → String
  | .infinite => infinity
  | .finite 0 _ => String.ofList ('0' :: whole.toList)
  | .finite m e => String.ofList ((shortest m e).text whole.toList)

end ClassAtlas.Number
