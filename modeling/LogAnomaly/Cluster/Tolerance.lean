import LogAnomaly.Arithmetic

/-!
# Tolerances

* `Tolerance`: the greatest distance at which two texts of given lengths are close;
* `LinearTolerance`: a share of the shorter length.
-/

namespace LogAnomaly

/-- The greatest distance at which texts with these numbers of tokens are close. -/
abbrev Tolerance := Nat → Nat → Nat

/-- Close are texts whose distance is about a `factor`-th of the shorter length, `delta` tokens
of which do not count. -/
structure LinearTolerance (α : Type) where
  delta : α
  factor : α

/-- `(min m n - delta) / factor`, at least 0, rounded. -/
def LinearTolerance.toTolerance {α : Type} [Sub α] [Div α] [NatCast α] [LT α] [DecidableLT α]
    [RoundNat α] (t : LinearTolerance α) (m n : Nat) : Nat :=
  let spare := ((min m n : Nat) : α) - t.delta
  let counted := if ((0 : Nat) : α) < spare then spare else ((0 : Nat) : α)
  roundNat (counted / t.factor)

end LogAnomaly
