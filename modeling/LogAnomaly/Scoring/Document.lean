import LogAnomaly.Json.Printer
import LogAnomaly.Scoring.Basic

/-!
# Scores as documents

* `MessageScore.write`: what is said of a message, as the text of a record.
-/

namespace LogAnomaly.MessageScore

/-- What is said of a message, as a document. -/
def toJson (s : MessageScore Float) : Json :=
  .record
    [("message_id", .ofNat s.messageId), ("interval_id", .ofNat s.intervalId),
     ("label", .string s.label.name), ("cluster_id", .ofOption .ofNat s.clusterId),
     ("representative", .bool s.representative), ("anomaly", Json.ofFloat s.anomaly)]

/-- What is said of a message, as a text. -/
def write (s : MessageScore Float) : String := s.toJson.compact

end LogAnomaly.MessageScore
