import Postal.Text.Digit

namespace Postal

structure Decimal where
  negative : Bool
  digits : Nat
  exponent : Int
deriving DecidableEq, Repr

def roundedQuotient (numerator denominator : Nat) : Nat :=
  let quotient := numerator / denominator
  let double := 2 * (numerator % denominator)
  if double < denominator then quotient
  else if denominator < double then quotient + 1
  else quotient + quotient % 2

def scaledRatio (base numerator denominator : Nat) (exponent : Int) : Nat × Nat :=
  (numerator * Nat.pow base exponent.toNat, denominator * Nat.pow base (-exponent).toNat)

structure BinaryFloat where
  significand : Nat
  exponent : Int
deriving DecidableEq, Repr

namespace BinaryFloat

/-- The number nearest to a ratio; of two that are equally near the one with an even significand.
The exponent has no upper bound here. -/
def nearest (numerator denominator : Nat) : BinaryFloat :=
  let estimate : Int := (numerator.log2 : Int) - denominator.log2 - 52
  let (top, bottom) := scaledRatio 2 numerator denominator (-estimate)
  let exponent := max (if top < Nat.pow 2 52 * bottom then estimate - 1 else estimate) (-1074)
  let (top, bottom) := scaledRatio 2 numerator denominator (-exponent)
  let significand := roundedQuotient top bottom
  if significand = Nat.pow 2 53 then ⟨Nat.pow 2 52, exponent + 1⟩ else ⟨significand, exponent⟩

def isFinite (number : BinaryFloat) : Bool :=
  number.exponent ≤ 971

def product (a b : BinaryFloat) : BinaryFloat :=
  let (top, bottom) := scaledRatio 2 (a.significand * b.significand) 1 (a.exponent + b.exponent)
  nearest top bottom

def quotient (a b : BinaryFloat) : BinaryFloat :=
  let (top, bottom) := scaledRatio 2 a.significand b.significand (a.exponent - b.exponent)
  nearest top bottom

def powerOfTen (power : Nat) : BinaryFloat :=
  nearest (Nat.pow 10 power) 1

def largestPower : Nat := 308

/-- A number times a power of ten; none if it is too large. The power is rounded before the number
is multiplied or divided by it, and powers beyond the largest are taken in steps. -/
def timesPowerOfTen? (number : BinaryFloat) (power : Int) : Option BinaryFloat :=
  if power.natAbs ≤ largestPower then
    if power < 0 then some (number.quotient (powerOfTen power.natAbs))
    else
      let result := number.product (powerOfTen power.natAbs)
      if result.isFinite then some result else none
  else if number.significand = 0 then some number
  else if 0 < power then none
  else (number.quotient (powerOfTen largestPower)).timesPowerOfTen? (power + largestPower)
termination_by power.natAbs
decreasing_by
  simp only [largestPower] at *
  omega

end BinaryFloat

def leadingPlace (numerator denominator : Nat) : Int :=
  if denominator ≤ numerator then (decimalDigits (numerator / denominator)).length
  else
    let zeros := (List.range 400).find? fun count =>
      decide (denominator ≤ numerator * Nat.pow 10 (count + 1))
    0 - ((zeros.getD 0 : Nat) : Int)

/-- The shortest decimal that lies nearer to a binary number than to any other, and of these the
nearest to it, or the even one of two that are equally near. -/
def shortestDecimal (significand : Nat) (exponent : Int) : Nat × Int :=
  let below := if significand = Nat.pow 2 52 && exponent > -1074 then 1 else 2
  let (value, unit) := scaledRatio 2 (4 * significand) 1 (exponent - 2)
  let (low, _) := scaledRatio 2 (4 * significand - below) 1 (exponent - 2)
  let (high, _) := scaledRatio 2 (4 * significand + 2) 1 (exponent - 2)
  let place := leadingPlace value unit
  let candidate (count : Nat) : Option (Nat × Int) :=
    let power := place - count
    let (top, bottom) := scaledRatio 10 value unit (-power)
    let digits := top / bottom
    let fits (digits : Nat) : Bool :=
      let (point, scale) := scaledRatio 10 (digits * unit) 1 power
      if significand % 2 = 0 then low * scale ≤ point && point ≤ high * scale
      else low * scale < point && point < high * scale
    match fits digits, fits (digits + 1) with
    | true, true =>
      some (roundedQuotient top bottom, power)
    | true, false => some (digits, power)
    | false, true => some (digits + 1, power)
    | false, false => none
  ((List.range 17).findSome? fun count => candidate (count + 1)).getD (significand, exponent)

def withoutTrailingZeros : Nat → Nat × Int → Nat × Int
  | 0, number => number
  | limit + 1, (digits, exponent) =>
    if digits ≠ 0 ∧ digits % 10 = 0 then withoutTrailingZeros limit (digits / 10, exponent + 1)
    else (digits, exponent)

def Decimal.ofBinary (negative : Bool) (number : BinaryFloat) : Decimal :=
  if number.significand = 0 then ⟨negative, 0, 0⟩
  else
    let (digits, exponent) :=
      withoutTrailingZeros 20 (shortestDecimal number.significand number.exponent)
    ⟨negative, digits, exponent⟩

def withPoint (digits : List Char) (places : Nat) : List Char :=
  if places < digits.length then
    digits.take (digits.length - places) ++ '.' :: digits.drop (digits.length - places)
  else '0' :: '.' :: List.replicate (places - digits.length) '0' ++ digits

def Decimal.plain (number : Decimal) : List Char :=
  let digits := decimalDigits number.digits
  let text :=
    if 0 ≤ number.exponent then
      digits ++ List.replicate number.exponent.toNat '0' ++ ['.', '0']
    else withPoint digits (-number.exponent).toNat
  if number.negative then '-' :: text else text

def Decimal.scientific (number : Decimal) : List Char :=
  let digits := decimalDigits number.digits
  let place := number.exponent + digits.length
  if number.digits = 0 || (-5 < place && place ≤ 16) then number.plain
  else
    let significand := match digits with
      | [] => []
      | [digit] => [digit]
      | digit :: others => digit :: '.' :: others
    let power := place - 1
    let text := significand ++ 'e' ::
      (if power < 0 then '-' else '+') :: decimalDigits power.natAbs
    if number.negative then '-' :: text else text

end Postal
