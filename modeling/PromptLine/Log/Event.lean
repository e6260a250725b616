import PromptLine.Binding
import PromptLine.Key.Description
import PromptLine.Terminal.Failure

/-!
# Events

What happens while lines are read is noted as events. An event has a severity, the part of the
program that it comes from, a message, and named values. A threshold lets the events pass that are
severe enough.
-/

namespace PromptLine

/-- How much an event matters, the least first. -/
inductive Severity where
  | trace | debug | info | warn | error
deriving DecidableEq, Repr

namespace Severity

/-- The rank of a severity, from 1 for the slightest. -/
def rank : Severity → Nat
  | .trace => 1
  | .debug => 2
  | .info => 3
  | .warn => 4
  | .error => 5

/-- How a severity is written in a record. -/
def name : Severity → String
  | .trace => "TRACE"
  | .debug => "DEBUG"
  | .info => "INFO"
  | .warn => "WARN"
  | .error => "ERROR"

end Severity

/-- The slightest severity that passes; `none` lets nothing pass. -/
structure Threshold where
  lowest? : Option Severity
deriving DecidableEq, Repr

namespace Threshold

/-- The threshold that no event passes. -/
def off : Threshold := ⟨none⟩

/-- Whether an event of some severity is severe enough. -/
def passes (threshold : Threshold) (severity : Severity) : Bool :=
  match threshold.lowest? with
  | none => false
  | some lowest => lowest.rank ≤ severity.rank

/-- The thresholds and what they are called. -/
def named : List (Threshold × String) :=
  [(off, "off"), (⟨some .error⟩, "error"), (⟨some .warn⟩, "warn"), (⟨some .info⟩, "info"),
    (⟨some .debug⟩, "debug"), (⟨some .trace⟩, "trace")]

/-- What a threshold is called. -/
def name (threshold : Threshold) : String :=
  ((named.find? fun entry => entry.1 == threshold).map (·.2)).getD ""

/-- The threshold of a name, in letters of either case. -/
def ofName? (name : String) : Option Threshold :=
  (named.find? fun entry => entry.2 == name.toLower).map (·.1)

end Threshold

/-- Something that happened while a line was read. -/
inductive Event where
  | dispatched (action : Action) (key : Key)
  | inserted (character : Char)
  /-- A key was neither bound nor printable. -/
  | ignored (key : Key)
  /-- The number of columns changed, and with it the row in which the line starts. -/
  | resized (oldWidth newWidth oldFirstRow newFirstRow : UInt16)
  | evicted (entry : String) (capacity : Nat)
  | committed (length historyLength : Nat)
  /-- The input ended while a text of this length was in the line. -/
  | endOfInput (discarded : Nat)
  | endRequested (code : KeyCode)
  | failed (error : TerminalError)
deriving DecidableEq, Repr

namespace Event

/-- How much an event matters. -/
def severity : Event → Severity
  | .dispatched .. | .inserted _ | .ignored _ => .trace
  | .resized .. | .evicted .. | .committed .. | .endOfInput _ | .endRequested _ => .debug
  | .failed _ => .warn

/-- The part of the program that an event comes from. -/
def origin : Event → String
  | .dispatched .. | .inserted _ | .ignored _ =>
    "r3bl_line_editor::line_editor_impl::line_editor::event_handlers"
  | .resized .. => "r3bl_line_editor::line_editor_impl::terminal_geometry"
  | .evicted .. => "r3bl_line_editor::line_editor_impl::history"
  | .committed .. | .endOfInput _ | .failed _ =>
    "r3bl_line_editor::line_editor_impl::line_editor::core"
  | .endRequested _ => "r3bl_line_editor::terminal_port::crossterm_terminal"

/-- The text of an event, without its values. -/
def message : Event → String
  | .dispatched .. => "dispatch"
  | .inserted _ => "insert"
  | .ignored _ => "ignored"
  | .resized .. => "terminal resized"
  | .evicted .. => "history entry evicted"
  | .committed .. => "line committed"
  | .endOfInput _ => "end of input"
  | .endRequested _ => "end of input requested"
  | .failed _ => "terminal failed, abandoning the line"

/-- The values of an event with their names, in the order in which they are shown. -/
def fields : Event → List (String × String)
  | .dispatched action key => [("action", action.name), ("key_event", key.description)]
  | .inserted character => [("character", Text.quoted character)]
  | .ignored key => [("key_event", key.description)]
  | .resized oldWidth newWidth oldFirstRow newFirstRow =>
    [("old_width", toString oldWidth), ("new_width", toString newWidth),
      ("old_first_row", toString oldFirstRow), ("new_first_row", toString newFirstRow)]
  | .evicted entry capacity => [("evicted", entry), ("max_size", toString capacity)]
  | .committed length historyLength =>
    [("len", toString length), ("history_len", toString historyLength)]
  | .endOfInput discarded => [("discarded_len", toString discarded)]
  | .endRequested code => [("code", code.description)]
  | .failed error => [("error", error.message)]

/-- Whether an event is severe enough. -/
def passes (threshold : Threshold) (event : Event) : Bool := threshold.passes event.severity

end Event

end PromptLine
