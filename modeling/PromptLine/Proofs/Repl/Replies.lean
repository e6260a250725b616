import Mathlib.Data.List.TakeWhile
import PromptLine.Proofs.Script.Session
import PromptLine.Repl

/-!
# What the loop says to a line

Which calls the loop makes between two prompts is decided by the line that was entered
(`PromptLine.Repl.Replies`): none if it is blank, those of a command if it is the command's name,
and else those that echo it. That the loop asks the editor whether the line is blank, and not the
text that it was handed, makes no difference, since the text is that of the editor's line.

On a terminal that works all of these calls succeed, and nothing is taken from its script
(`PromptLine.Repl.makes_process`).
-/

namespace PromptLine

namespace Console
variable {α β : Type}

/-- **An operation makes calls** on a scripted terminal. It succeeds and takes nothing from the
script. -/
structure Makes (console : Console Script) (operation : Editing α) (calls : List Call) (result : α)
    (next : Console Script) : Prop where
  performed : console.perform Script.terminal operation = (.ok result, next)
  calls : (Moment.exchanges (console.course Script.terminal operation)).map Exchange.call = calls
  shows : console.stage.terminal.Shows next.stage.terminal

namespace Makes
variable {console next last : Console Script} {first second : List Call} {value : α} {result : β}
  {operation : Editing α} {rest : α → Editing β}

theorem pure (console : Console Script) (value : α) :
    console.Makes (Pure.pure value) [] value console :=
  ⟨rfl, rfl, .refl _⟩

theorem modify (console : Console Script) (change : Editor → Editor) :
    console.Makes (modify change) [] () { console with editor := change console.editor } :=
  ⟨rfl, rfl, .refl _⟩

/-- Two operations in a row make the calls of the first one and then those of the second one. -/
theorem bind (makes : console.Makes operation first value next)
    (further : next.Makes (rest value) second result last) :
    console.Makes (operation >>= rest) (first ++ second) result last where
  performed := (perform_bind_of_ok makes.performed).trans further.performed
  calls := by
    rw [course_bind_of_ok makes.performed, Moment.exchanges_append, List.map_append, makes.calls,
      further.calls]
  shows := makes.shows.trans further.shows

theorem get_bind {rest : Editor → Editing β}
    (makes : console.Makes (rest console.editor) first result next) :
    console.Makes (get >>= rest) first result next where
  performed := (perform_get_bind ..).trans makes.performed
  calls := by
    rw [← makes.calls]
    rfl
  shows := makes.shows

/-- Writes that did not fail before the calls do not fail after them. -/
theorem works (makes : console.Makes operation first value next)
    (works : console.stage.terminal.writeFailure? = none) :
    next.stage.terminal.writeFailure? = none :=
  makes.shows.writeFailure?_eq.trans works

/-- A call that is known to succeed and to show something. -/
theorem call {c : Call} {reply : c.Reply} {operations : List Operation}
    (performed : console.perform Script.terminal (Editing.call c) =
      (.ok reply, console.shows operations)) :
    console.Makes (Editing.call c) [c] reply (console.shows operations) :=
  ⟨performed, rfl, console.shows_shows operations⟩

/-- What was written is shown with one call. -/
theorem flush (console : Console Script) :
    console.Makes (Editing.call .flush) [.flush] () (console.shows [.flush]) :=
  call console.perform_flush

end Makes

end Console

namespace Repl
open Console (Makes)

section Writing
variable {console : Console Script} (works : console.stage.terminal.writeFailure? = none)
include works

/-- A line is written and shown. -/
theorem makes_writeLine (text : String) :
    ∃ next, console.Makes (Editing.talk (Talk.writeLine text)) [.writeLine text, .flush] () next ∧
      next.editor = console.editor := by
  unfold Talk.writeLine
  rw [Editing.talk_bind]
  have written := Makes.call (console.perform_writeLine works text)
  exact ⟨_, written.bind (.flush _), rfl⟩

/-- An error is written in red and shown, and the colour is taken back. -/
theorem makes_writeErrorLine (text : String) :
    ∃ next, console.Makes (Editing.talk (Talk.writeErrorLine text))
        [.foreground .red, .writeLine text, .resetColor, .flush] () next ∧
      next.editor = console.editor := by
  unfold Talk.writeErrorLine
  simp only [Editing.talk_bind]
  have red := Makes.call (console.perform_foreground works .red)
  have written := Makes.call (Console.perform_writeLine _ (red.works works) text)
  have reset := Makes.call (Console.perform_resetColor _ (written.works (red.works works)))
  exact ⟨_, red.bind (written.bind (reset.bind (.flush _))), rfl⟩

/-- Several lines are written and shown one by one. -/
theorem makes_writeLines (lines : List String) :
    ∃ next, console.Makes (Editing.talk (writeLines lines))
        (lines.flatMap fun line => [.writeLine line, .flush]) () next ∧
      next.editor = console.editor := by
  induction lines generalizing console with
  | nil => exact ⟨console, .pure console (), rfl⟩
  | cons line rest ih =>
    obtain ⟨next, written, same⟩ := makes_writeLine works line
    obtain ⟨last, others, unchanged⟩ := ih (written.works works)
    unfold writeLines
    rw [Editing.talk_bind]
    exact ⟨last, written.bind others, unchanged.trans same⟩

end Writing

/-! ### The reply to a line -/

/-- A line is blank just if each of its characters is. -/
theorem isBlank_iff (line : Line) : line.isBlank ↔ ∀ c ∈ line.text, Text.isBlank c := by
  unfold Line.isBlank Line.firstNonBlank?
  simp

/-- The text is the name of a command, in letters of either case and with blank characters around
it. -/
def Names (text : String) (command : Command) : Prop :=
  (Text.trim text).toLower =
    match command with
    | .info => "info"
    | .history => "history"
    | .clearHistory => "clear-history"
    | .exit => "exit"

instance (text : String) (command : Command) : Decidable (Names text command) :=
  inferInstanceAs (Decidable (_ = _))

namespace Command

/-- The calls that a command makes when the history has these entries. -/
def calls (entries : List String) : Command → List Call
  | .info => [.writeLine infoMessage, .flush]
  | .history =>
    if entries.isEmpty then
      [.foreground .red, .writeLine "History is empty", .resetColor, .flush]
    else (listing entries).flatMap fun line => [.writeLine line, .flush]
  | .clearHistory => [.writeLine "History cleared", .flush]
  | .exit => []

/-- Only one command ends the loop. -/
def flow : Command → Flow
  | .info | .history | .clearHistory => .goOn
  | .exit => .stop

/-- Only one command changes the editor: it takes the entries of the history and ends browsing. -/
def leaves (editor : Editor) : Command → Editor
  | .info | .history | .exit => editor
  | .clearHistory =>
    { editor with history := { editor.history with entries := [], browsing := none } }

/-- No two commands have the same name. -/
theorem name_injective : Function.Injective name := by
  intro first second same
  cases first <;> cases second <;> first | rfl | exact absurd same (by decide)

/-- A text stands for a command just if it is its name, in letters of either case. -/
theorem ofName?_eq_some {text : String} {command : Command} :
    ofName? text = some command ↔ text.toLower = command.name := by
  unfold ofName?
  constructor
  · intro found
    have named := List.find?_some found
    simp only [beq_iff_eq] at named
    exact named.symm
  · intro same
    cases found : all.find? fun other => other.name == text.toLower with
    | none => exact absurd (beq_iff_eq.mpr same.symm) (List.find?_eq_none.mp found _ command.mem_all)
    | some other =>
      have named := List.find?_some found
      simp only [beq_iff_eq] at named
      exact congrArg some (name_injective (named.trans same))

end Command

/-- **The reply to a line**: the calls that the loop makes, whether it goes on, and the editor that
it leaves. -/
inductive Replies (text : String) (editor : Editor) : List Call → Flow → Editor → Prop where
  /-- A blank line is passed over. -/
  | passes (blank : ∀ c ∈ text.toList, Text.isBlank c) : Replies text editor [] .goOn editor
  /-- The name of a command is obeyed. -/
  | obeys {command : Command} (spoken : ∃ c ∈ text.toList, ¬ Text.isBlank c)
      (named : Names text command) :
      Replies text editor (command.calls editor.history.entries) command.flow
        (command.leaves editor)
  /-- Any other line is echoed. -/
  | echoes (spoken : ∃ c ∈ text.toList, ¬ Text.isBlank c)
      (unnamed : ∀ command, ¬ Names text command) :
      Replies text editor [.writeLine ("echo: " ++ text), .flush] .goOn editor

/-- The loop calls its commands by their names. -/
theorem names_iff {text : String} {command : Command} :
    Names text command ↔ (Text.trim text).toLower = command.name := by
  cases command <;> rfl

/-- A text names one command at most. -/
theorem Names.unique {text : String} {first second : Command} (names : Names text first)
    (again : Names text second) : first = second :=
  Command.name_injective ((names_iff.mp names).symm.trans (names_iff.mp again))

/-- A blank text names no command. -/
theorem not_names_of_blank {text : String} (blank : ∀ c ∈ text.toList, Text.isBlank c)
    (command : Command) : ¬ Names text command := by
  have trimmed : Text.trim text = "" := by
    simp [Text.trim, Text.trimmed, List.dropWhile_eq_nil_iff.mpr blank]
  rw [names_iff, trimmed]
  cases command <;> decide +kernel

namespace Replies
variable {text : String} {editor after : Editor} {calls : List Call} {flow : Flow}

/-- The loop ends with a line that names the command for that, and with no other. -/
theorem stop_iff (replies : Replies text editor calls flow after) :
    flow = .stop ↔ Names text .exit := by
  cases replies with
  | passes blank => simp [not_names_of_blank blank]
  | echoes spoken unnamed => simp [unnamed]
  | @obeys command spoken named =>
    constructor
    · intro stops
      cases command with
      | exit => exact named
      | info | history | clearHistory => cases stops
    · intro exits
      cases named.unique exits
      rfl

/-- The name of a command is obeyed, whatever stands around it. -/
theorem obeyed {command : Command} (replies : Replies text editor calls flow after)
    (names : Names text command) :
    calls = command.calls editor.history.entries ∧ flow = command.flow ∧
      after = command.leaves editor := by
  cases replies with
  | passes blank => exact absurd names (not_names_of_blank blank command)
  | echoes spoken unnamed => exact absurd names (unnamed command)
  | @obeys other spoken named =>
    cases named.unique names
    exact ⟨rfl, rfl, rfl⟩

/-- A line that is neither blank nor the name of a command is echoed, and the loop goes on. -/
theorem echoed (replies : Replies text editor calls flow after)
    (spoken : ∃ c ∈ text.toList, ¬ Text.isBlank c) (unnamed : ∀ command, ¬ Names text command) :
    calls = [.writeLine ("echo: " ++ text), .flush] ∧ flow = .goOn ∧ after = editor := by
  cases replies with
  | passes blank =>
    obtain ⟨c, member, visible⟩ := spoken
    exact absurd (blank c member) visible
  | @obeys command _ named => exact absurd named (unnamed command)
  | echoes => exact ⟨rfl, rfl, rfl⟩

/-- The editor stays as it is, unless the line names the command that empties the history. -/
theorem after_eq (replies : Replies text editor calls flow after) :
    after = if Names text .clearHistory then
        { editor with history := { editor.history with entries := [], browsing := none } }
      else editor := by
  cases replies with
  | passes blank => rw [if_neg (not_names_of_blank blank _)]
  | echoes spoken unnamed => rw [if_neg (unnamed _)]
  | @obeys command spoken named =>
    by_cases clears : Names text .clearHistory
    · cases named.unique clears
      rw [if_pos clears]
      rfl
    · rw [if_neg clears]
      cases command with
      | clearHistory => exact absurd named clears
      | info | history | exit => rfl

end Replies

section Process
variable {console : Console Script} (works : console.stage.terminal.writeFailure? = none)
include works

/-- **A command makes its calls**, and leaves the editor that belongs to it. -/
theorem makes_obey (command : Command) :
    ∃ next, console.Makes (obey command) (command.calls console.editor.history.entries)
        command.flow next ∧
      next.editor = command.leaves console.editor := by
  cases command with
  | info =>
    obtain ⟨next, written, same⟩ := makes_writeLine works infoMessage
    exact ⟨next, written.bind (.pure next Flow.goOn), same⟩
  | history =>
    by_cases empty : console.editor.history.entries.isEmpty
    · obtain ⟨next, written, same⟩ := makes_writeErrorLine works "History is empty"
      refine ⟨next, .get_bind ?_, same⟩
      simp only [Command.calls, History.isEmpty, empty, ↓reduceIte]
      exact written.bind (.pure next Flow.goOn)
    · obtain ⟨next, written, same⟩ := makes_writeLines works (listing console.editor.history.entries)
      refine ⟨next, .get_bind ?_, same⟩
      simp only [Command.calls, History.isEmpty, empty, Bool.false_eq_true, ↓reduceIte]
      rw [← List.append_nil (List.flatMap _ _)]
      exact written.bind (.pure next Flow.goOn)
  | clearHistory =>
    have cleared := Makes.modify console fun editor => { editor with history := editor.history.clear }
    obtain ⟨next, written, same⟩ := makes_writeLine (cleared.works works) "History cleared"
    exact ⟨next, cleared.bind (written.bind (.pure next Flow.goOn)), same⟩
  | exit => exact ⟨console, .pure console Flow.stop, rfl⟩

/-- **The reply to a line** that is the text of the editor's line. -/
theorem makes_process {text : String} (content : console.editor.line.content = text) :
    ∃ calls flow after next, Replies text console.editor calls flow after ∧
      next.editor = after ∧ console.Makes (process text) calls flow next := by
  have chars : text.toList = console.editor.line.text := by
    rw [← content, Line.content, String.toList_ofList]
  unfold process
  by_cases blank : ∀ c ∈ text.toList, Text.isBlank c
  · have passed : console.editor.line.isBlank := (isBlank_iff _).mpr (chars ▸ blank)
    refine ⟨_, _, _, console, .passes blank, rfl, .get_bind ?_⟩
    rw [if_pos passed]
    exact .pure console Flow.goOn
  have spoken : ∃ c ∈ text.toList, ¬ Text.isBlank c := by simpa using blank
  have heard : ¬ console.editor.line.isBlank := fun passed =>
    blank (chars ▸ (isBlank_iff _).mp passed)
  cases named : Command.ofName? (Text.trim text) with
  | some command =>
    obtain ⟨next, obeyed, same⟩ := makes_obey works command
    have names := names_iff.mpr (Command.ofName?_eq_some.mp named)
    refine ⟨_, _, _, next, .obeys spoken names, same, .get_bind ?_⟩
    rw [if_neg heard]
    exact obeyed
  | none =>
    have unnamed : ∀ command, ¬ Names text command := by
      intro command names
      rw [Command.ofName?_eq_some.mpr (names_iff.mp names)] at named
      cases named
    obtain ⟨next, echoed, same⟩ := makes_writeLine works ("echo: " ++ text)
    refine ⟨_, _, _, next, .echoes spoken unnamed, same, .get_bind ?_⟩
    rw [if_neg heard]
    exact echoed.bind (.pure next Flow.goOn)

end Process

end Repl

end PromptLine
