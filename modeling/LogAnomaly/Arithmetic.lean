/-!
# Arithmetic

Scores and tolerances are computed in floats. Their definitions ask only for the operations that
floats share with exact numbers, so that they can be read in either.

* `RoundNat`: rounding to a natural number;
* `Logarithm`: the natural logarithm;
* `total`, `average`: sums from left to right, and their mean.
-/

namespace LogAnomaly

instance floatNatCast : NatCast Float := ⟨Float.ofNat⟩

/-- Rounding to the nearest natural number, halves up; whatever lies below becomes 0. -/
class RoundNat (α : Type) where
  roundNat : α → Nat

export RoundNat (roundNat)

/-- Floats are rounded within 64 bits; what is no number becomes 0. -/
instance : RoundNat Float := ⟨fun x => x.round.toUInt64.toNat⟩

/-- The natural logarithm. -/
class Logarithm (α : Type) where
  log : α → α

instance : Logarithm Float := ⟨Float.log⟩

variable {α : Type} [Add α] [Div α] [NatCast α]

/-- The sum of a list, taken from the left. -/
def total (xs : List α) : α := xs.foldl (· + ·) ((0 : Nat) : α)

/-- The mean of a list, 0 of none. -/
def average (xs : List α) : α :=
  if xs.isEmpty then ((0 : Nat) : α) else total xs / ((xs.length : Nat) : α)

end LogAnomaly
