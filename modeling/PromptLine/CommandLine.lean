import PromptLine.CommandLine.Reader
import PromptLine.Settings

/-!
# The command line

The program declares four options and two questions, and lets a reader find out which of them its
arguments give (`PromptLine.CommandLine.parseWith`). A log file requires that logging is enabled.
-/

namespace PromptLine

/-- What a user may choose when the program is started. -/
structure Options where
  historySize : Nat := History.defaultCapacity
  /-- The number of spaces that the tab key puts in. -/
  tabWidth : Nat := Settings.defaultTabWidth
  enableLogging : Bool := false
  logFile? : Option String := none
deriving DecidableEq, Repr

namespace CommandLine

/-- What the options and the questions are called. -/
inductive Name where
  | historySize
  | tabWidth
  | enableLogging
  | logFile
  | help
  | version
deriving DecidableEq, Repr

namespace Name

/-- The names in the order in which the options are explained. -/
def all : List Name := [.historySize, .tabWidth, .enableLogging, .logFile, .help, .version]

/-- What the program declares about each of them. -/
def declared : Name → Declared Name
  | .historySize =>
    { name := .historySize, long := "history-size", letter? := some 's', kind := .size
      usual? := some (toString ({} : Options).historySize)
      meaning := "Number of lines kept in history" }
  | .tabWidth =>
    { name := .tabWidth, long := "tab-width", letter? := some 't', kind := .size
      usual? := some (toString ({} : Options).tabWidth)
      meaning := "Spaces inserted by the Tab key" }
  | .enableLogging =>
    { name := .enableLogging, long := "enable-logging", letter? := some 'l', kind := .flag
      meaning := "Log to a file for debugging" }
  | .logFile =>
    { name := .logFile, long := "log-file", kind := .text, requires := [.enableLogging]
      meaning := "Path of the log file, defaults to \x60line_editor_log.txt\x60" }
  | .help =>
    { name := .help, long := "help", letter? := some 'h', kind := .asks .displayHelp
      meaning := "Print help" }
  | .version =>
    { name := .version, long := "version", letter? := some 'V', kind := .asks .displayVersion
      meaning := "Print version" }

end Name

/-- The options of the program, and the questions that it answers. -/
def declared : List (Declared Name) := Name.all.map Name.declared

/-- The size that is the value of an option. There has to be one. -/
def Matches.size (matched : Matches Name) (name : Name) : Except UsageError Nat :=
  match matched.value? name with
  | none => .error .missingRequired
  | some value =>
    match Text.size? value with
    | none => .error .wrongValue
    | some size => .ok size

/-- The options that were found. -/
def Matches.options (matched : Matches Name) : Except UsageError Options := do
  let historySize ← matched.size .historySize
  let tabWidth ← matched.size .tabWidth
  .ok { historySize, tabWidth, enableLogging := matched.isGiven .enableLogging,
        logFile? := matched.value? .logFile }

/-- **What the arguments ask for**, as a reader finds it out. -/
def parseWith (read : Reader Name) (arguments : List String) : Except UsageError Options := do
  let matched ← read declared arguments
  matched.options

/-- What the arguments ask for, with the reader that comes with the library. -/
def parse (arguments : List String) : Except UsageError Options :=
  parseWith Reader.standard arguments

/-- The answer to the question for the version. -/
def version : String := "r3bl_line_editor 0.1.0\n"

end CommandLine

end PromptLine
