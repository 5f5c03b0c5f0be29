import LogAnomaly.Ascending
import LogAnomaly.Time.Instant

/-!
# Intervals

* `Activity`: how often a message occurred in an interval, and perhaps at which ticks;
* `Interval`: the activities of a window of time;
* `Activity.merge`: two activities of one message as one;
* `Interval.add`, `Interval.collapsed`: at most one activity for each message.
-/

namespace LogAnomaly

/-- The activity of one message in one interval. -/
structure Activity where
  messageId : Nat
  count : Nat
  /-- The ticks at which the message was seen, if they were recorded. -/
  timeline : Option (List Nat) := none
  deriving DecidableEq, Repr

/-- The activity of all messages in a window of time. -/
structure Interval where
  id : Nat
  start : Instant
  activities : List Activity := []
  deriving DecidableEq, Repr

namespace Activity

/-- The ticks of two activities of one message. One without ticks occupies the whole interval, so
it takes in any ticks. -/
def joinTimelines : Option (List Nat) → Option (List Nat) → Option (List Nat)
  | some ticks, some more => some (ascending (ticks ++ more))
  | _, _ => none

/-- Two activities of one message as one. -/
def merge (s other : Activity) : Activity where
  messageId := s.messageId
  count := s.count + other.count
  timeline := joinTimelines s.timeline other.timeline

end Activity

namespace Interval

/-- Adds an activity to a list: it is merged into the first one of its message, if there is one. -/
def insertActivity (activity : Activity) : List Activity → List Activity
  | [] => [activity]
  | s :: rest =>
    if s.messageId = activity.messageId then s.merge activity :: rest
    else s :: insertActivity activity rest

/-- Adds an activity. -/
def add (interval : Interval) (activity : Activity) : Interval :=
  { interval with activities := insertActivity activity interval.activities }

/-- Adds occurrences of a message whose ticks were not recorded. -/
def addCount (interval : Interval) (messageId count : Nat) : Interval :=
  interval.add { messageId, count }

/-- Merges an activity into the one at a place, if there is one. -/
def mergeAt? (interval : Interval) (place : Nat) (activity : Activity) : Option Interval :=
  if place < interval.activities.length then
    some { interval with activities := interval.activities.modify place (·.merge activity) }
  else none

/-- The interval with one activity for each message, in the order of their first activities. -/
def collapsed (interval : Interval) : Interval :=
  interval.activities.foldl add { interval with activities := [] }

/-- The messages in the order of their activities. -/
def messages (interval : Interval) : List Nat := interval.activities.map (·.messageId)

/-- Whether a message has more than one activity. -/
def hasRepeats (interval : Interval) : Bool := !decide interval.messages.Nodup

/-- Whether a message has an activity. -/
def contains (interval : Interval) (messageId : Nat) : Bool :=
  interval.activities.any (·.messageId == messageId)

end Interval

end LogAnomaly
