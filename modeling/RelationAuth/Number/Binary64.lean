/-!
# Numbers in binary floating point

A number outside the integers is held as the 64 bits of a binary floating-point value.  There are
two ways to read it from a decimal: as the nearest value, or by scaling the leading digits with
powers of ten.  It is written with the fewest digits that lie nearer to it than to any other value.
-/

namespace RelationAuth

/-- A binary floating-point value of 64 bits. -/
structure Binary64 where
  /-- The sign, eleven bits of exponent and fifty-two of fraction. -/
  bits : UInt64
  deriving DecidableEq, Repr, Inhabited

namespace Binary64

/-- The sign bit. -/
def isNegative (value : Binary64) : Bool :=
  value.bits.toNat / Nat.pow 2 63 == 1

/-- The eleven bits of the exponent. -/
def exponentField (value : Binary64) : Nat :=
  value.bits.toNat / Nat.pow 2 52 % Nat.pow 2 11

/-- The field of fifty-two bits below the leading one. -/
def fractionField (value : Binary64) : Nat :=
  value.bits.toNat % Nat.pow 2 52

/-- Whether a value is a number, be it an infinite one. -/
def isNumber (value : Binary64) : Bool :=
  value.exponentField != 2047 || value.fractionField == 0

/-- The infinite value of a sign. -/
def infinity (negative : Bool) : Binary64 :=
  { bits := if negative then 0xFFF0000000000000 else 0x7FF0000000000000 }

/-- A value that stands for no number. -/
def noNumber : Binary64 :=
  { bits := 0x7FF8000000000000 }

/-- The integer `m` of a finite value `± m · 2 ^ q`. -/
def significand (value : Binary64) : Nat :=
  if value.exponentField = 0 then value.fractionField else value.fractionField + Nat.pow 2 52

/-- The power `q` of a finite value `± m · 2 ^ q`. -/
def power (value : Binary64) : Int :=
  (max value.exponentField 1 : Nat) - 1075

/-- The bits of infinity. -/
def infiniteBits : Nat := 0x7FF0000000000000

/-- A quotient rounded to the nearest natural number; a half goes to the even one. -/
def roundQuotient (dividend divisor : Nat) : Nat :=
  let whole := dividend / divisor
  let rest := 2 * (dividend % divisor)
  if rest < divisor ∨ (rest = divisor ∧ whole % 2 = 0) then whole else whole + 1

/-- The power of two at or below a positive quotient. -/
def quotientLog (dividend divisor : Nat) : Int :=
  let guess : Int := (dividend.log2 : Int) - divisor.log2
  if divisor * Nat.pow 2 guess.toNat ≤ dividend * Nat.pow 2 (-guess).toNat then guess
  else guess - 1

/-- The bits of the value nearest to a positive quotient. -/
def nearestBits (dividend divisor : Nat) : Nat :=
  let power := max (quotientLog dividend divisor - 52) (-1074)
  let significand :=
    roundQuotient (dividend * Nat.pow 2 (-power).toNat) (divisor * Nat.pow 2 power.toNat)
  min ((power + 1074).toNat * Nat.pow 2 52 + significand) infiniteBits

/-- The bits of the value nearest to `significand · 10 ^ exponent`.  Numbers far beyond the finite
values are infinite, and numbers far below the least one are zero. -/
def decimalBits (significand : Nat) (exponent : Int) : Nat :=
  let point := ((Nat.toDigits 10 significand).length : Int) + exponent
  if significand = 0 ∨ point < -330 then 0
  else if point > 330 then infiniteBits
  else nearestBits (significand * Nat.pow 10 exponent.toNat) (Nat.pow 10 (-exponent).toNat)

/-- The value nearest to `± significand · 10 ^ exponent`; of two, the one with the even
significand. -/
def nearest (negative : Bool) (significand : Nat) (exponent : Int) : Binary64 :=
  let sign := if negative then Nat.pow 2 63 else 0
  { bits := UInt64.ofNat (sign + decimalBits significand exponent) }

/-- A value as the arithmetic sees it. -/
def toFloat (value : Binary64) : Float :=
  Float.ofBits value.bits

/-- A power of ten, to the nearest value. -/
def powerOfTen (exponent : Nat) : Float :=
  (nearest false 1 exponent).toFloat

/-- A significand divided or multiplied by a power of ten in steps of at most `10 ^ 308`; `none`
when it grows beyond every finite value. -/
def scale : Nat → Float → Int → Option Float
  | 0, value, _ => some value
  | steps + 1, value, exponent =>
    if exponent.natAbs ≤ 308 then
      if exponent ≥ 0 then
        let scaled := value * powerOfTen exponent.natAbs
        if scaled.isFinite then some scaled else none
      else
        some (value / powerOfTen exponent.natAbs)
    else if value == 0 then some value
    else if exponent ≥ 0 then none
    else scale steps (value / powerOfTen 308) (exponent + 308)

/-- The value of `± significand · 10 ^ exponent` by scaling, when it is finite. -/
def ofDecimal? (negative : Bool) (significand : UInt64) (exponent : Int) : Option Binary64 :=
  (scale (exponent.natAbs / 308 + 1) significand.toFloat exponent).map fun magnitude =>
    { bits := (if negative then -magnitude else magnitude).toBits }

/-- Which of two decimals at equal distances stands for a value. -/
inductive Tie where
  /-- The one whose last digit is even. -/
  | even
  /-- The larger one. -/
  | up
  deriving DecidableEq, Repr

/-- The digits of a positive finite value: the fewest whose number, scaled by the power of ten
beside it, rounds back to the value, and of those the nearest. -/
def shortestDigits (tie : Tie) (value : Binary64) : Nat × Int :=
  let m := value.significand
  let low := if m = Nat.pow 2 52 ∧ value.exponentField > 1 then 4 * m - 1 else 4 * m - 2
  let high := 4 * m + 2
  let shift := value.power - 2
  let up := Nat.pow 2 shift.toNat
  let down := Nat.pow 2 (-shift).toNat
  let onGrid (exponent : Int) : Option (Nat × Int) :=
    let grid := Nat.pow 10 exponent.toNat * down
    let unit := Nat.pow 10 (-exponent).toNat * up
    let below := 4 * m * unit / grid
    let inside (candidate : Nat) : Bool :=
      if m % 2 = 0 then low * unit ≤ candidate * grid && candidate * grid ≤ high * unit
      else low * unit < candidate * grid && candidate * grid < high * unit
    let distanceBelow := 4 * m * unit - below * grid
    let distanceAbove := (below + 1) * grid - 4 * m * unit
    let prefersBelow :=
      distanceBelow < distanceAbove ||
        (distanceBelow == distanceAbove && tie == Tie.even && below % 2 == 0)
    if inside below && (!inside (below + 1) || prefersBelow) then some (below, exponent)
    else if inside (below + 1) then some (below + 1, exponent)
    else none
  ((List.range 640).findSome? fun (step : Nat) => onGrid (309 - (step : Int))).getD (0, 0)

/-- A number of zeros as digits. -/
def zeros (count : Nat) : String :=
  String.ofList (List.replicate count '0')

/-- The text of a finite value in a data format, with ties going to even digits: positional for
scales between `10 ^ -5` and `10 ^ 16`, always with a point, and with an exponent beyond. -/
def dataText (value : Binary64) : String :=
  let sign := if value.isNegative then "-" else ""
  if value.significand = 0 then sign ++ "0.0"
  else
    let (number, exponent) := value.shortestDigits .even
    let digits := (Nat.toDigits 10 number)
    let point := (digits.length : Int) + exponent
    let text :=
      if 0 ≤ exponent ∧ point ≤ 16 then String.ofList digits ++ zeros exponent.toNat ++ ".0"
      else if 0 < point ∧ point ≤ 16 then
        String.ofList (digits.take point.toNat) ++ "." ++ String.ofList (digits.drop point.toNat)
      else if -5 < point ∧ point ≤ 0 then "0." ++ zeros (-point).toNat ++ String.ofList digits
      else
        let fraction := if digits.length = 1 then "" else "." ++ String.ofList (digits.drop 1)
        String.ofList (digits.take 1) ++ fraction ++ "e" ++ toString (point - 1)
    sign ++ text

/-- The text of a value in plain positional notation, with ties going up and without a point for
whole numbers. -/
def plainText (value : Binary64) : String :=
  let sign := if value.isNegative then "-" else ""
  if !value.isNumber then "NaN"
  else if value.exponentField = 2047 then sign ++ "inf"
  else if value.significand = 0 then sign ++ "0"
  else
    let (number, exponent) := value.shortestDigits .up
    let digits := Nat.toDigits 10 number
    let point := (digits.length : Int) + exponent
    let text :=
      if 0 ≤ exponent then String.ofList digits ++ zeros exponent.toNat
      else if 0 < point then
        String.ofList (digits.take point.toNat) ++ "." ++ String.ofList (digits.drop point.toNat)
      else "0." ++ zeros (-point).toNat ++ String.ofList digits
    sign ++ text

/-- The natural number nearest to a value, halves away from zero.  Negative values and what is no
number give zero, and large values the given bound. -/
def nearestNat (bound : Nat) (value : Binary64) : Nat :=
  if value.isNegative || !value.isNumber then 0
  else if value.exponentField = 2047 then bound
  else
    let m := value.significand
    let whole :=
      if 0 ≤ value.power then m * Nat.pow 2 value.power.toNat
      else (m + Nat.pow 2 ((-value.power).toNat - 1)) / Nat.pow 2 (-value.power).toNat
    min whole bound

/-- Whether a value is zero, of either sign. -/
def isZero (value : Binary64) : Bool :=
  value.significand == 0

end Binary64

end RelationAuth
