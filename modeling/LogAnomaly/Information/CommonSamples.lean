import LogAnomaly.Information.Occupancy

/-!
# Common samples

* `CommonSamples`: for each two messages the number of samples that both occupy;
* `CommonSamples.addAll`: adds those of one interval;
* `CommonSamples.ofIntervals`: counts them over many intervals.
-/

namespace LogAnomaly

/-- The number of samples that each two of `n` messages share. On the diagonal stands the number of
samples that a message occupies. -/
structure CommonSamples (n : Nat) where
  counts : Vector (Vector Nat n) n
  deriving DecidableEq, Repr

namespace CommonSamples

variable {n : Nat}

/-- No samples. -/
def zero (n : Nat) : CommonSamples n := ⟨.replicate n (.replicate n 0)⟩

/-- The number for the messages of two rows. -/
def cell (t : CommonSamples n) (i j : Fin n) : Nat := (t.counts.get i).get j

/-- Adds to one cell. -/
def add (i j : Fin n) (count : Nat) (t : CommonSamples n) : CommonSamples n :=
  ⟨t.counts.set i ((t.counts.get i).set j (t.cell i j + count) j.isLt) i.isLt⟩

/-- Adds the samples that two messages share in an interval, in both cells of the two. A message
and itself have only one cell. -/
def addPair (ticks : Nat) (a b : Fin n × Occupancy) (t : CommonSamples n) : CommonSamples n :=
  let shared := a.2.common ticks b.2
  let once := t.add a.1 b.1 shared
  if a.1 = b.1 then once else once.add b.1 a.1 shared

/-- Adds the samples of an interval: those that each message shares with itself and with the
messages after it. -/
def addAll (ticks : Nat) : List (Fin n × Occupancy) → CommonSamples n → CommonSamples n
  | [], t => t
  | a :: rest, t => addAll ticks rest ((a :: rest).foldl (fun t b => t.addPair ticks a b) t)

/-- Counts the common samples of the messages with a row. -/
def ofIntervals (sampling : Sampling) (ids : List Nat) (intervals : List Interval) :
    CommonSamples ids.length :=
  intervals.foldl (fun t interval => t.addAll sampling.ticks (interval.present sampling ids))
    (zero ids.length)

end CommonSamples

end LogAnomaly
