import PromptLine.CommandLine.Help
import PromptLine.Log.Logged
import PromptLine.Log.Setup
import PromptLine.Repl
import PromptLine.Terminal.Emulated

/-!
# The program

The program reads its command line, sets up the log if one is asked for, and runs the loop on its
terminal. The history starts with the names of the commands.
-/

namespace PromptLine.Program

/-- What a run of the program leaves. -/
structure Outcome where
  exit : Nat
  /-- What was written to the terminal, or to the output when there is no terminal. -/
  output : String
  /-- How often the terminal was asked where its cursor is. -/
  queries : Nat
  files : File.Tree

/-- The exit code of a run in which nothing failed. -/
def success : Nat := 0

/-- The exit code of an error that is reported. -/
def failure : Nat := 1

/-- The exit code of a wrong command line. -/
def misuse : Nat := 2

/-- The exit code of a run that was broken off. -/
def brokenOff : Nat := 101

/-- The log that the options ask for, if they ask for one. -/
def logConfig? (options : Options) : Option Log.Config :=
  if options.enableLogging then some (Log.Config.toFile options.logFile?) else none

/-- The settings of the editor that the options ask for. -/
def settings (options : Options) : Settings where
  historyCapacity := options.historySize
  tabWidth := options.tabWidth

/-- What the program does on its terminal: the names of the commands go into the history, the user
is told what can be typed, and the loop runs. -/
def interact (keys lines : Nat) : Editing (Option Unit) := do
  Editing.rememberAll (Repl.Command.all.map Repl.Command.name)
  Editing.talk (Talk.writeLine Repl.infoMessage)
  Repl.run keys lines

/-- The exit code of what came of the loop. -/
def exitCode {α : Type} : Except TerminalError α → Nat
  | .ok _ => success
  | .error _ => failure

/-- The exit code of a log that could not be set up. -/
def exitCodeOfLog : Log.SetupError → Nat
  | .cannotOpen _ => brokenOff
  | .noFolder _ | .noFileName _ | .alreadyInstalled => failure

/-- What is said, and the exit code, when the command line is not that of a run. -/
def answerUsage (page : CommandLine.Page) : UsageError → String × Nat
  | .displayHelp => (page.text, success)
  | .displayVersion => (CommandLine.version, success)
  | _ => ("", misuse)

/-- The run on a terminal, after the log has been set up. -/
def runOn (options : Options) (log : Option Log.Open) (files : File.Tree) (terminal : Emulated) :
    Outcome :=
  let console : LoggedConsole Emulated :=
    { editor := .new (settings options) .standard
      stage := { terminal := terminal.send Ansi.enableWrap, outlet := { files } } }
  let patience := terminal.patience
  let (result, after) := console.perform log Emulated.terminal (interact patience patience)
  let last := after.stage.terminal.send Ansi.resetColor
  { exit := exitCode result
    output := last.sent
    queries := last.queries
    files := after.stage.outlet.files }

/-- What is said, and the exit code, when the command line is not that of a run on a terminal, if
there is one. A page is as wide as the terminal that it is shown on. -/
def answerUsageOn (terminal? : Option Emulated) (error : UsageError) : String × Nat :=
  match terminal? with
  | some terminal =>
    let (text, exit) := answerUsage { width := terminal.width.toNat, styled := true } error
    (Ansi.cooked text, exit)
  | none => answerUsage {} error

/-- **A run of the program** in a working folder, on a terminal if it has one. Without a terminal
it can say how it is used, and otherwise fails once the log is set up. -/
def run (arguments : List String) (terminal? : Option Emulated) (files : File.Tree) : Outcome :=
  match CommandLine.parse arguments with
  | .error error =>
    let (output, exit) := answerUsageOn terminal? error
    { exit, output, queries := 0, files }
  | .ok options =>
    let (log, files) := match logConfig? options with
      | some config => config.install none files
      | none => (.ok none, files)
    match log with
    | .error error => { exit := exitCodeOfLog error, output := "", queries := 0, files }
    | .ok log =>
      match terminal? with
      | some terminal => runOn options log files terminal
      | none => { exit := failure, output := "", queries := 0, files }

end PromptLine.Program
