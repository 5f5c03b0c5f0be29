import LogAnomaly.Interval.Basic
import LogAnomaly.Time.Reader
import LogAnomaly.Json.Decode
import LogAnomaly.Json.Printer
import LogAnomaly.Json.Reader

/-!
# Intervals as documents

* `Interval.toJson`, `Interval.ofJson?`: a record with the fields `id`, `start` and `summaries`,
  the last of which may be missing; an activity that has no ticks has no field for them;
* `Interval.parseList?`: the text of a list of intervals.
-/

namespace LogAnomaly

open LogAnomaly.Json

/-- An activity as a document. -/
def Activity.toJson (s : Activity) : Json :=
  .record <|
    [("message_id", .ofNat s.messageId), ("count", .ofNat s.count)] ++
      match s.timeline with
      | some ticks => [("timeline", .ofList .ofNat ticks)]
      | none => []

/-- An activity from a document. -/
def Activity.ofJson? (j : Json) : Option Activity := do
  match ← j.record? [("message_id", .refused), ("count", .refused), ("timeline", .defaulted)] with
  | [some id, some count, timeline] =>
    return {
      messageId := ← id.nat?
      count := ← count.nat?
      timeline := ← match timeline with
        | none => some none
        | some ticks => ticks.option? (list? (natUpTo? maxHalfWord)) }
  | _ => none

/-- An interval as a document. -/
def Interval.toJson (interval : Interval) : Json :=
  .record
    [("id", .ofNat interval.id), ("start", .string interval.start.write),
     ("summaries", .ofList Activity.toJson interval.activities)]

/-- An interval from a document. -/
def Interval.ofJson? (j : Json) : Option Interval := do
  match ← j.record? [("id", .refused), ("start", .refused), ("summaries", .defaulted)] with
  | [some id, some start, activities] =>
    return {
      id := ← id.nat?
      start := ← Instant.parse? (← start.text?)
      activities := ← match activities with
        | none => some []
        | some list => list.list? Activity.ofJson? }
  | _ => none

/-- The intervals of a text. -/
def Interval.parseList? (text : String) : Option (List Interval) := do
  (← Json.parse? text).list? Interval.ofJson?

end LogAnomaly
