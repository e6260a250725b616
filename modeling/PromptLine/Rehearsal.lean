import PromptLine.Repl
import PromptLine.Terminal.Faulty
import PromptLine.Terminal.Scripted

/-!
# Rehearsals

A rehearsal is a console over a scripted terminal that can be given faults. Since a script ends,
every session and every loop does, and the number of keys that suffices is known beforehand.
-/

namespace PromptLine

/-- A console over a scripted terminal with faults. -/
abbrev Rehearsal := Console (Faulty Script)

namespace Rehearsal

variable {α : Type}

/-- A scripted terminal with faults. -/
def device : Terminal (Faulty Script) := Faulty.terminal Script.terminal

/-- A rehearsal with a new editor and no faults. -/
def new (settings : Settings) (bindings : Bindings) (script : Script) : Rehearsal where
  editor := Editor.new settings bindings
  stage := { terminal := { inner := script } }

/-- The script, with what was recorded so far. -/
def script (rehearsal : Rehearsal) : Script := rehearsal.stage.terminal.inner

/-- A rehearsal with its script changed. -/
def withScript (change : Script → Script) (rehearsal : Rehearsal) : Rehearsal :=
  let stage := rehearsal.stage
  { rehearsal with
    stage := { stage with
      terminal := { stage.terminal with inner := change stage.terminal.inner } } }

/-- A rehearsal with its editor changed. -/
def withEditor (change : Editor → Editor) (rehearsal : Rehearsal) : Rehearsal :=
  { rehearsal with editor := change rehearsal.editor }

/-- The rehearsal with other faults, none of which has seen a call yet. -/
def withFaults (faults : List Fault) (rehearsal : Rehearsal) : Rehearsal :=
  let stage := rehearsal.stage
  { rehearsal with stage := { stage with terminal := { stage.terminal with faults } } }

/-- A number of reads after which the script has ended. -/
def patience (rehearsal : Rehearsal) : Nat := rehearsal.script.inputs.length + 1

/-- Perform an operation of the editor on the scripted terminal. -/
def perform (operation : Editing α) (rehearsal : Rehearsal) :
    Except TerminalError α × Rehearsal :=
  Console.perform device operation rehearsal

/-- Read a line, with as much patience as the rehearsal has. -/
def readLine (prompt : String) (rehearsal : Rehearsal) :
    Except TerminalError (Option Reading) × Rehearsal :=
  rehearsal.perform (Editing.readLine rehearsal.patience prompt)

/-- Read a line on the same terminal without flushing. -/
def readLineUnflushed (prompt : String) (rehearsal : Rehearsal) :
    Except TerminalError (Option Reading) × Rehearsal :=
  Console.perform device.unflushed (Editing.readLine rehearsal.patience prompt) rehearsal

/-- Run the loop that echoes lines, with as much patience as the rehearsal has. -/
def runRepl (rehearsal : Rehearsal) : Except TerminalError (Option Unit) × Rehearsal :=
  rehearsal.perform (Repl.run rehearsal.patience rehearsal.patience)

/-- Handle keys one after the other, whether or not the terminal fails. -/
def handleAll (keys : List Key) (rehearsal : Rehearsal) :
    List (Except TerminalError Unit) × Rehearsal :=
  match keys with
  | [] => ([], rehearsal)
  | key :: rest =>
    let (result, after) := rehearsal.perform (Editing.handle key)
    let (results, last) := handleAll rest after
    (result :: results, last)

end Rehearsal

end PromptLine
