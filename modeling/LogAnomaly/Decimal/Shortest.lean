import LogAnomaly.Decimal.Binary64

/-!
# Decimal digits of a float

* `magnitude`: the place of the first digit;
* `shortest`: the fewest digits that read back as the same float, of those the nearest;
* `rounded`: a given number of digits of the exact value, rounded to nearest.

A float is given here as `mantissa · 2 ^ exponent` with a positive mantissa; the digits come as
an integer together with the place `p` of the decimal point: `0.d₁d₂… · 10 ^ p`.
-/

namespace LogAnomaly.Decimal

/-- A positive decimal: its digits and the place of its point before or after them. -/
structure Digits where
  digits : List Char
  point : Int
  deriving DecidableEq, Repr

/-- Which of two equally near decimals is taken. -/
inductive Tie where
  | toEven
  | up
  deriving DecidableEq, Repr

/-- Numerator and denominator of `base ^ e`. -/
def power (base : Nat) (e : Int) : Nat × Nat :=
  if 0 ≤ e then (Nat.pow base e.toNat, 1) else (1, Nat.pow base (-e).toNat)

/-- The integer `p` with `10 ^ (p - 1) ≤ num / den < 10 ^ p`. -/
def magnitude (num den : Nat) : Int :=
  if den ≤ num then (Nat.toDigits 10 (num / den)).length
  else 1 - ((Nat.toDigits 10 ((den - 1) / num)).length : Int)

/-- The reals that are nearer to a float than to any other one, as integer multiples of
`2 ^ exponent / 4`; the ends belong to it if the mantissa is even. -/
structure Neighbourhood where
  low : Nat
  value : Nat
  high : Nat
  closed : Bool

/-- The neighbourhood of `mantissa · 2 ^ exponent`: below a power of two the floats are twice as
dense. -/
def neighbourhood (mantissa : Nat) (exponent : Int) : Neighbourhood where
  low := if mantissa = hiddenBit && -1074 < exponent then 4 * mantissa - 1 else 4 * mantissa - 2
  value := 4 * mantissa
  high := 4 * mantissa + 2
  closed := mantissa % 2 == 0

/-- Whether `a / b` lies in a neighbourhood whose unit is `unit.1 / unit.2`. -/
def Neighbourhood.holds (n : Neighbourhood) (unit : Nat × Nat) (a b : Nat) : Bool :=
  let point := a * unit.2
  let low := n.low * unit.1 * b
  let high := n.high * unit.1 * b
  if n.closed then low ≤ point && point ≤ high else low < point && point < high

/-- The decimal with `count` digits nearest to a float, if one of those lies in its
neighbourhood. Only the two neighbours of the float on the grid can. -/
def onGrid? (n : Neighbourhood) (unit : Nat × Nat) (point : Int) (tie : Tie) (count : Nat) :
    Option Nat :=
  let grid := power 10 (point - count)
  let num := n.value * unit.1 * grid.2
  let den := unit.2 * grid.1
  let below := num / den
  let inside (d : Nat) : Bool := n.holds unit (d * grid.1) grid.2
  let twice := 2 * (num % den)
  let lowerFirst := match tie with
    | .toEven => twice < den || (twice == den && below % 2 == 0)
    | .up => decide (twice < den)
  let (first, second) := if lowerFirst then (below, below + 1) else (below + 1, below)
  if inside first then some first else if inside second then some second else none

/-- The digits of `n`, zeros at the end left out. -/
def significant (n : Nat) : List Char :=
  ((Nat.toDigits 10 n).reverse.dropWhile (· == '0')).reverse

/-- The fewest digits that read back as `mantissa · 2 ^ exponent`; seventeen always do. -/
def shortest (mantissa : Nat) (exponent : Int) (tie : Tie) : Digits :=
  let n := neighbourhood mantissa exponent
  let unit := power 2 (exponent - 2)
  let point := magnitude (n.value * unit.1) unit.2
  let found := (List.range 17).findSome? fun i =>
    (onGrid? n unit point tie (i + 1)).map fun d => (d, i + 1)
  match found with
  | some (d, count) =>
    let carried := if Nat.pow 10 count ≤ d then point + 1 else point
    ⟨significant d, carried⟩
  | none => ⟨significant (n.value * unit.1 / unit.2), point⟩

/-- The first `count` digits of `mantissa · 2 ^ exponent`, rounded to nearest, ties to even. -/
def rounded (mantissa : Nat) (exponent : Int) (count : Nat) : Digits :=
  let value := power 2 exponent
  let point := magnitude (mantissa * value.1) value.2
  let grid := power 10 (point - count)
  let d := roundDiv (mantissa * value.1 * grid.2) (value.2 * grid.1)
  if Nat.pow 10 count ≤ d then ⟨Nat.toDigits 10 (Nat.pow 10 (count - 1)), point + 1⟩
  else ⟨Nat.toDigits 10 d, point⟩

end LogAnomaly.Decimal
