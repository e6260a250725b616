import PromptLine.Editor.ReadLine

/-!
# The console

A console is an editor beside a terminal. Lines that a program writes are shown at once, and error
messages are red.
-/

namespace PromptLine

namespace Talk

/-- Write a line and show it. -/
def writeLine (text : String) : Talk Unit := do
  call (.writeLine text)
  call .flush

/-- Write a line in red, go back to the usual colour, and show it. -/
def writeErrorLine (text : String) : Talk Unit := do
  call (.foreground .red)
  call (.writeLine text)
  call .resetColor
  call .flush

end Talk

/-- An editor beside a terminal whose state is of type `σ`. -/
structure Console (σ : Type) where
  editor : Editor
  stage : Stage σ

namespace Console

variable {σ α : Type}

/-- Carry out an operation of the editor. -/
def perform (device : Terminal σ) (operation : Editing α) (console : Console σ) :
    Except TerminalError α × Console σ :=
  let ((result, editor), stage) :=
    (Editing.dialogue operation console.editor).play device console.stage
  (result, { editor, stage })

end Console

end PromptLine
