import LogAnomaly.Arithmetic

/-!
# Mutual information of two indicators

* `Contingency`: how often two properties of samples hold together, alone and not at all;
* `Contingency.information`: the information that one gives about the other, in nats:
  the sum of `p(x,y) · log (p(x,y) / (p(x) · p(y)))` over the four cells.
-/

namespace LogAnomaly

/-- The counts of samples with both, the first, the second and neither of two properties. -/
structure Contingency where
  both : Nat
  first : Nat
  second : Nat
  neither : Nat
  deriving DecidableEq, Repr

namespace Contingency

/-- The counts from the numbers of samples with both, with the first, with the second property
and of all samples. Numbers that contradict each other are cut to what is possible. -/
def ofMarginals (both first second samples : Nat) : Contingency :=
  let both := min (min both first) second
  ⟨both, first - both, second - both, samples - (first + second - both)⟩

variable {α : Type} [Add α] [Sub α] [Mul α] [Div α] [NatCast α] [LT α] [DecidableLT α]
  [Logarithm α]

/-- The share of a count in all samples. -/
def share (count samples : Nat) : α := ((count : Nat) : α) / ((samples : Nat) : α)

/-- The part of the sum that a cell gives: its count and the shares of its two values. -/
def cellTerm (samples : Nat) (cell : Nat × α × α) : α :=
  let joint : α := share cell.1 samples
  joint * Logarithm.log (joint / (cell.2.1 * cell.2.2))

/-- The four cells: a count and the shares of the values that it counts. -/
def cells (t : Contingency) (first second : α) : List (Nat × α × α) :=
  let one : α := ((1 : Nat) : α)
  [(t.both, first, second), (t.first, first, one - second), (t.second, one - first, second),
   (t.neither, one - first, one - second)]

end Contingency

variable {α : Type} [Add α] [Sub α] [Mul α] [Div α] [NatCast α] [LT α] [DecidableLT α]
  [Logarithm α]

/-- The mutual information of two properties, from the numbers of samples with both, with the
first, with the second and of all samples. Empty cells give nothing, and rounding below 0 is cut
off. -/
def binaryInformation (both first second samples : Nat) : α :=
  let zero : α := ((0 : Nat) : α)
  if samples = 0 then zero
  else
    let cells := (Contingency.ofMarginals both first second samples).cells
      (Contingency.share first samples : α) (Contingency.share second samples)
    let sum := total ((cells.filter fun cell => cell.1 != 0).map (Contingency.cellTerm samples))
    if zero < sum then sum else zero

end LogAnomaly
