import LogAnomaly.Text.Blank
import LogAnomaly.Text.Pieces
import LogAnomaly.Time.Reader

/-!
# Lines of a log

* `splitLines`: the lines of a text;
* `LogLine.parse?`: component, time and text of a line, with tabs between them.
-/

namespace LogAnomaly

open LogAnomaly.Text

/-- A line without the carriage return that belongs to its end. -/
def dropReturn (line : List Char) : List Char :=
  if line.getLast? = some '\r' then line.dropLast else line

/-- The lines of a text. A carriage return before the end of a line belongs to that end; nothing
follows the last end. -/
def splitLines (s : List Char) : List (List Char) :=
  let parts := pieces '\n' s
  parts.dropLast.map dropReturn ++ (parts.getLast?.toList.filter fun last => !last.isEmpty)

/-- What a line of a log says. -/
structure LogLine where
  component : String
  time : Instant
  text : String
  deriving DecidableEq, Repr

/-- The part before the first tab and the part after it. -/
def cutAtTab (s : List Char) : Option (List Char × List Char) :=
  let first := s.takeWhile (· != '\t')
  match s.drop first.length with
  | [] => none
  | _ :: rest => some (first, rest)

/-- Reads `component`, `time` and `text` with tabs between them; the text may hold more tabs. -/
def LogLine.parse? (s : List Char) : Option LogLine := do
  let (component, rest) ← cutAtTab s
  let (time, text) ← cutAtTab rest
  let time ← Instant.parseStrict? (String.ofList (trimBlank time))
  let component := trimBlank component
  if component.isEmpty then none
  else some ⟨String.ofList component, time, String.ofList text⟩

end LogAnomaly
