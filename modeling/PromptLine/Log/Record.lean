import PromptLine.Log.Event
import PromptLine.Terminal.Ansi
import PromptLine.Text.Number

/-!
# Log records

One line of the log for each event: the severity, right-aligned, the origin, the message, and the
named values. A file takes plain records; a display takes records with the severity in colour, the
punctuation dimmed and the names of the values in italics.
-/

namespace PromptLine.Log

/-- The ways in which parts of a record are set off. -/
structure Style where
  severity : Severity → String → String
  dimmed : String → String
  italic : String → String

namespace Style

/-- The style of a file: a text is written as it is. -/
def plain : Style where
  severity := fun _ text => text
  dimmed := id
  italic := id

/-- The colour of a severity on a display, as a terminal is told. -/
def colorCode : Severity → String
  | .trace => "35"
  | .debug => "34"
  | .info => "32"
  | .warn => "33"
  | .error => "31"

/-- Parts are set off by colour and face. -/
def colored : Style where
  severity := fun severity => Ansi.rendered [colorCode severity]
  dimmed := Ansi.rendered ["2"]
  italic := Ansi.rendered ["3"]

end Style

/-- The record of an event. -/
def record (style : Style) (event : Event) : String :=
  let level := style.severity event.severity (Text.rightAligned 5 event.severity.name)
  let values := event.fields.map fun (name, value) =>
    " " ++ style.italic name ++ style.dimmed "=" ++ value
  level ++ " " ++ style.dimmed event.origin ++ style.dimmed ":" ++ " " ++ event.message ++
    String.join values ++ "\n"

/-- The records of the events that pass a threshold, when events are written like this. -/
def records (written : Event → String) (threshold : Threshold) (events : List Event) : String :=
  String.join ((events.filter (Event.passes threshold)).map written)

end PromptLine.Log
