import PromptLine.Console
import PromptLine.Log.Layer

/-!
# Consoles with a log

At a console with a log an event goes to the log at once when it is noted, by the editor or by the
terminal. The log is told of nothing else, and nothing is asked of it.
-/

namespace PromptLine

variable {σ α : Type}

/-- A terminal, and what a log writes to. -/
structure LoggedStage (σ : Type) where
  terminal : σ
  outlet : Log.Outlet

/-- Play a dialogue on a terminal, with a log if there is one. -/
def Dialogue.playLogged (log? : Option Log.Open) (device : Terminal σ) :
    Dialogue α → LoggedStage σ → α × LoggedStage σ
  | .done result, stage => (result, stage)
  | .ask call next, stage =>
    let answer := device.answer call stage.terminal
    (next answer.reply).playLogged log? device
      { terminal := answer.terminal, outlet := Log.takeAll log? answer.events stage.outlet }
  | .note event next, stage =>
    next.playLogged log? device { stage with outlet := Log.take log? event stage.outlet }

/-- **An editor beside a terminal and a log.** -/
structure LoggedConsole (σ : Type) where
  editor : Editor
  stage : LoggedStage σ

/-- Carry out an operation of the editor, with a log if there is one. -/
def LoggedConsole.perform (log? : Option Log.Open) (device : Terminal σ) (operation : Editing α)
    (console : LoggedConsole σ) : Except TerminalError α × LoggedConsole σ :=
  let ((result, editor), stage) :=
    (Editing.dialogue operation console.editor).playLogged log? device console.stage
  (result, { editor, stage })

end PromptLine
