/-!
# The numbers that floats stand for

A float is read as an integer times a power of two, exactly, and a quotient of integers is
rounded to the nearest float, ties to the even mantissa.

* `Binary64.ofFloat`: the value of a float, from its bits;
* `roundDiv`: a quotient rounded to the nearest integer;
* `floatOfRatio`, `floatOfDecimal`: the float nearest to a quotient, to a decimal.
-/

namespace LogAnomaly.Decimal

/-- The value of a float; a finite one is `mantissa · 2 ^ exponent`, negated if `negative`. -/
inductive Binary64 where
  | nan
  | infinite (negative : Bool)
  | finite (negative : Bool) (mantissa : Nat) (exponent : Int)
  deriving DecidableEq, Repr

/-- The bit that marks a negative float. -/
def signBit : Nat := 9223372036854775808

/-- The leading bit of a mantissa, which is not written: `2 ^ 52`. -/
def hiddenBit : Nat := 4503599627370496

/-- The value that 64 bits stand for. -/
def Binary64.ofBits (bits : Nat) : Binary64 :=
  let negative := bits / signBit % 2 == 1
  let field : Nat := bits / hiddenBit % 2048
  let low := bits % hiddenBit
  if field = 2047 then if low = 0 then .infinite negative else .nan
  else if field = 0 then .finite negative low (-1074)
  else .finite negative (hiddenBit + low) ((field : Int) - 1075)

/-- The value of a float. -/
def Binary64.ofFloat (x : Float) : Binary64 := .ofBits x.toBits.toNat

/-- The integer nearest to `num / den`, the even one of two that are equally near. -/
def roundDiv (num den : Nat) : Nat :=
  let quotient := num / den
  let twice := 2 * (num % den)
  if twice < den then quotient
  else if den < twice then quotient + 1
  else if quotient % 2 = 0 then quotient else quotient + 1

/-- The bits of positive infinity. -/
def infiniteBits : Nat := 2047 * hiddenBit

/-- The bits of the float nearest to `num / den`. The exponent is the least that leaves the
mantissa below `2 ^ 53`, but never below that of the smallest floats. -/
def nearestBits (num den : Nat) : Nat :=
  if num = 0 || den = 0 then 0 else
    let guess : Int := (num.log2 : Int) - den.log2
    let below := if 0 ≤ guess then decide (num < den * Nat.pow 2 guess.toNat)
      else decide (num * Nat.pow 2 (-guess).toNat < den)
    let top := if below then guess - 1 else guess
    let exponent := max (top - 52) (-1074)
    let mantissa := if 0 ≤ exponent then roundDiv num (den * Nat.pow 2 exponent.toNat)
      else roundDiv (num * Nat.pow 2 (-exponent).toNat) den
    min ((exponent + 1074).toNat * hiddenBit + mantissa) infiniteBits

/-- A float from its sign and the bits of its magnitude. -/
def floatOfBits (negative : Bool) (bits : Nat) : Float :=
  Float.ofBits (if negative then signBit + bits else bits).toUInt64

/-- The float nearest to `num / den`. -/
def floatOfRatio (negative : Bool) (num den : Nat) : Float :=
  floatOfBits negative (nearestBits num den)

/-- The float nearest to `digits · 10 ^ exponent`. Decimals whose first digit lies far outside
the range of floats are settled without computing the power. -/
def floatOfDecimal (negative : Bool) (digits : Nat) (exponent : Int) : Float :=
  let first : Int := exponent + (Nat.toDigits 10 digits).length
  if digits = 0 || first < -330 then floatOfBits negative 0
  else if 310 < first then floatOfBits negative infiniteBits
  else if 0 ≤ exponent then floatOfRatio negative (digits * Nat.pow 10 exponent.toNat) 1
  else floatOfRatio negative digits (Nat.pow 10 (-exponent).toNat)

end LogAnomaly.Decimal
