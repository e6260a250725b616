import PromptLine.Console
import PromptLine.Line.Edit
import PromptLine.Text.Number

/-!
# A loop that echoes lines

The loop reads a line after a prompt, acts on it and starts again. A blank line is passed over, the
name of a command is obeyed, and any other line is echoed. The loop ends with the command `exit` or
with the input.
-/

namespace PromptLine.Repl

/-- **The commands of the loop.** -/
inductive Command where
  | info
  | history
  | clearHistory
  | exit
deriving DecidableEq, Repr

namespace Command

/-- The commands, in the order in which the loop names them. -/
def all : List Command := [.info, .history, .clearHistory, .exit]

/-- What a user types for a command. -/
def name : Command → String
  | .info => "info"
  | .history => "history"
  | .clearHistory => "clear-history"
  | .exit => "exit"

/-- The command of a name, in letters of either case. Only the letters from A to Z have two. -/
def ofName? (name : String) : Option Command :=
  all.find? fun command => command.name == name.toLower

/-- No command is missing from the list. -/
theorem mem_all (command : Command) : command ∈ all := by
  cases command <;> decide

end Command

/-- What stands in front of every line. -/
def prompt : String := "> "

/-- What the loop says about itself: the names of the commands, quoted. -/
def infoMessage : String :=
  let names := Command.all.map fun command => "\"" ++ command.name ++ "\""
  "Type anything to have it echoed back. Commands: [" ++ String.intercalate ", " names ++ "]"

/-- The list of entries, numbered from zero. -/
def listing (entries : List String) : List String :=
  entries.zipIdx.map fun (entry, index) => Text.rightAligned 3 (toString index) ++ "  " ++ entry

/-- Write lines, each of them shown at once. -/
def writeLines : List String → Talk Unit
  | [] => pure ()
  | line :: rest => do
    Talk.writeLine line
    writeLines rest

/-- Whether the loop goes on after a line. -/
inductive Flow where
  | goOn
  | stop
deriving DecidableEq, Repr

/-- Obey a command. The history is listed one entry a line, and an empty one is an error to say so.
-/
def obey : Command → Editing Flow
  | .info => do
    Editing.talk (Talk.writeLine infoMessage)
    pure .goOn
  | .history => do
    let history := (← get).history
    if history.isEmpty then
      Editing.talk (Talk.writeErrorLine "History is empty")
    else
      Editing.talk (writeLines (listing history.entries))
    pure .goOn
  | .clearHistory => do
    modify fun editor => { editor with history := editor.history.clear }
    Editing.talk (Talk.writeLine "History cleared")
    pure .goOn
  | .exit => pure .stop

/-- Act on a line that was entered. Whether it is blank is asked of the editor's line. -/
def process (line : String) : Editing Flow := do
  if (← get).line.isBlank then
    pure .goOn
  else
    match Command.ofName? (Text.trim line) with
    | some command => obey command
    | none =>
      Editing.talk (Talk.writeLine ("echo: " ++ line))
      pure .goOn

/-- **The loop**, for at most so many lines of at most so many keys each. There is no result when
that was not enough. -/
def run (keys : Nat) : Nat → Editing (Option Unit)
  | 0 => pure none
  | lines + 1 => do
    match ← Editing.readLine keys prompt with
    | none => pure none
    | some .endOfInput => pure (some ())
    | some (.line text) =>
      match ← process text with
      | .stop => pure (some ())
      | .goOn => run keys lines

end PromptLine.Repl
