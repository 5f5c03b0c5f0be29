import LogAnomaly.Decimal.Shortest

/-!
# Written floats

* `positional`: the shortest digits without an exponent, as messages quote a number;
* `scientific`: twelve significant digits with an exponent.
-/

namespace LogAnomaly.Decimal

/-- A run of zeros. -/
def zeros (n : Nat) : List Char := List.replicate n '0'

/-- A minus sign if `negative`. -/
def signed (negative : Bool) (text : List Char) : List Char :=
  if negative then '-' :: text else text

/-- An integer in base ten. -/
def intDigits (n : Int) : List Char := signed (n < 0) (Nat.toDigits 10 n.natAbs)

/-- A decimal without an exponent and without a point if it is an integer. -/
def Digits.positional (d : Digits) : List Char :=
  let count := d.digits.length
  if d.point ≤ 0 then '0' :: '.' :: (zeros (-d.point).toNat ++ d.digits)
  else if count ≤ d.point.toNat then d.digits ++ zeros (d.point.toNat - count)
  else d.digits.take d.point.toNat ++ '.' :: d.digits.drop d.point.toNat

/-- One digit, a point, the other digits and the exponent. -/
def Digits.scientific (d : Digits) : List Char :=
  d.digits.take 1 ++ '.' :: d.digits.drop 1 ++ 'e' :: intDigits (d.point - 1)

/-- A float in its shortest form without an exponent. -/
def positional (x : Float) : String :=
  String.ofList <| match Binary64.ofFloat x with
    | .nan => ['N', 'a', 'N']
    | .infinite negative => signed negative ['i', 'n', 'f']
    | .finite negative 0 _ => signed negative ['0']
    | .finite negative mantissa exponent =>
      signed negative (shortest mantissa exponent .up).positional

/-- A float to twelve significant digits, with an exponent. -/
def scientific (x : Float) : String :=
  String.ofList <| match Binary64.ofFloat x with
    | .nan => ['N', 'a', 'N']
    | .infinite negative => signed negative ['i', 'n', 'f']
    | .finite negative 0 _ => signed negative ('0' :: '.' :: zeros 11 ++ ['e', '0'])
    | .finite negative mantissa exponent =>
      signed negative (rounded mantissa exponent 12).scientific

end LogAnomaly.Decimal
