import LogAnomaly.Interval.Basic

/-!
# Occupied samples

* `Sampling`: what counts as a sample: an interval or a tick of an interval;
* `Occupancy`: the samples of an interval in which a message is present;
* `Occupancy.common`: the number of samples that two messages share;
* `Interval.present`: the messages of an interval that have a row, with their samples.
-/

namespace LogAnomaly

/-- What counts as a sample. -/
inductive Sampling where
  /-- Every interval. -/
  | presence
  /-- Every tick of an interval. -/
  | timeline (ticksPerInterval : Nat)
  deriving DecidableEq, Repr

/-- The number of samples in an interval. -/
def Sampling.ticks : Sampling → Nat
  | .presence => 1
  | .timeline ticksPerInterval => max ticksPerInterval 1

/-- The samples of an interval in which a message is present. -/
inductive Occupancy where
  | all
  /-- Ticks in ascending order. -/
  | ticks (occupied : List Nat)
  deriving DecidableEq, Repr

/-- The number of common elements of two ascending lists. -/
def commonCount : List Nat → List Nat → Nat
  | [], _ => 0
  | _ :: _, [] => 0
  | a :: s, b :: t =>
    if a < b then commonCount s (b :: t)
    else if b < a then commonCount (a :: s) t
    else commonCount s t + 1
termination_by s t => s.length + t.length

namespace Occupancy

/-- The samples of an activity. Without ticks in range the message is present all the time. -/
def ofActivity (sampling : Sampling) (activity : Activity) : Occupancy :=
  match sampling, activity.timeline with
  | .presence, _ => .all
  | .timeline _, none => .all
  | .timeline ticksPerInterval, some recorded =>
    match ascending (recorded.filter (· < ticksPerInterval)) with
    | [] => .all
    | occupied => .ticks occupied

/-- The number of common samples. -/
def common (perInterval : Nat) : Occupancy → Occupancy → Nat
  | .all, .all => perInterval
  | .all, .ticks occupied => occupied.length
  | .ticks occupied, .all => occupied.length
  | .ticks s, .ticks t => commonCount s t

end Occupancy

/-- The rows of the messages of an interval, in the order of their activities, and the samples that
these occupy. The activities of a message are merged before. Row `i` is that of `ids[i]`. -/
def Interval.present (sampling : Sampling) (ids : List Nat) (interval : Interval) :
    List (Fin ids.length × Occupancy) :=
  let merged := if interval.hasRepeats then interval.collapsed else interval
  merged.activities.filterMap fun activity =>
    (ids.finIdxOf? activity.messageId).map fun row => (row, Occupancy.ofActivity sampling activity)

/-- The number of intervals in which a message occurs. -/
def appearances (intervals : List Interval) (messageId : Nat) : Nat :=
  intervals.countP (·.contains messageId)

/-- All messages that occur. -/
def occurring (intervals : List Interval) : IdSet :=
  .ofList (intervals.flatMap (·.messages))

end LogAnomaly
