import LogAnomaly.Information.Binary
import LogAnomaly.Information.CommonSamples
import LogAnomaly.Information.SquareMatrix

/-!
# Information matrices

* `InformationMatrix`: the information that messages give about each other;
* `InformationMatrix.ofIntervals`: the matrix of the messages that appear often enough;
* `InformationMatrix.ofMatrix?`: a matrix that was computed before.
-/

namespace LogAnomaly

/-- What messages tell about each other. The rows of the matrix are those of `ids`. -/
structure InformationMatrix (α : Type) where
  info : SquareMatrix α
  /-- The message of each row. -/
  ids : List Nat
  /-- The number of intervals in which each message appears. -/
  appearances : List Nat
  /-- The number of intervals, at least 1. -/
  intervals : Nat
  /-- All messages, those without a row too. -/
  seen : IdSet
  size_info : info.size = ids.length
  square : info.data.size = info.size * info.size

namespace InformationMatrix

variable {α : Type}

/-- The number of messages with a row. -/
abbrev size (m : InformationMatrix α) : Nat := m.ids.length

theorem cell_lt (m : InformationMatrix α) (i j : Fin m.size) :
    i.val * m.size + j.val < m.info.data.size := by
  rw [m.square, m.size_info]
  calc i.val * m.size + j.val < i.val * m.size + m.size := Nat.add_lt_add_left j.isLt _
    _ = (i.val + 1) * m.size := (Nat.succ_mul _ _).symm
    _ ≤ m.size * m.size := Nat.mul_le_mul_right _ i.isLt

/-- The cell of two messages. -/
def cell (m : InformationMatrix α) (i j : Fin m.size) : α :=
  have := m.cell_lt i j
  m.info.data[i.val * m.size + j.val]

/-- The row of a message; of several rows for one message the last. -/
def rowOf? (m : InformationMatrix α) (id : Nat) : Option Nat :=
  ((m.ids.zipIdx.filter (·.1 == id)).getLast?).map (·.2)

/-- A matrix that was computed before, if it has a row for each of the messages. -/
def ofMatrix? (ids : List Nat) (info : SquareMatrix α) : Option (InformationMatrix α) :=
  if h : info.size = ids.length ∧ info.data.size = info.size * info.size then
    some {
      info, ids
      appearances := ids.map fun _ => 1
      intervals := 1
      seen := .ofList ids
      size_info := h.1
      square := h.2 }
  else none

section

variable [Add α] [Div α] [NatCast α]

/-- The mean of all cells off the diagonal. -/
def overallMean (m : InformationMatrix α) : α := m.info.overallMean?.getD ((0 : Nat) : α)

/-- The mean over all pairs of members, by their places in the array; none if one is missing. -/
def pairMean? (m : InformationMatrix α) (members : List Nat) : Option α :=
  m.info.pairMean? members

/-- The mean over all pairs of members. -/
def pairMean (m : InformationMatrix α) (members : List (Fin m.size)) : α :=
  average ((pairs members).map fun (i, j) => m.cell i j)

end

variable [Add α] [Sub α] [Mul α] [Div α] [NatCast α] [LT α] [DecidableLT α] [Logarithm α]

/-- The messages that appear in more than `minAppearances` intervals, in ascending order. -/
def survivors (minAppearances : Nat) (intervals : List Interval) : List Nat :=
  (occurring intervals).toList.filter fun id => minAppearances < LogAnomaly.appearances intervals id

/-- The matrix of the messages that appear in more than `minAppearances` intervals. -/
def ofIntervals (sampling : Sampling) (minAppearances : Nat) (intervals : List Interval) :
    InformationMatrix α :=
  let ids := survivors minAppearances intervals
  let common := CommonSamples.ofIntervals sampling ids intervals
  let samples := max intervals.length 1 * sampling.ticks
  { info := SquareMatrix.ofCells fun i j : Fin ids.length =>
      if i = j then ((0 : Nat) : α)
      else binaryInformation (common.cell i j) (common.cell i i) (common.cell j j) samples
    ids
    appearances := ids.map (LogAnomaly.appearances intervals)
    intervals := max intervals.length 1
    seen := occurring intervals
    size_info := rfl
    square := SquareMatrix.size_data_ofCells _ }

end InformationMatrix

end LogAnomaly
