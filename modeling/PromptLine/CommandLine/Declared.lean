import PromptLine.Text.Number

/-!
# Declared options

A program declares its options, and hands the declarations to a reader of command lines together
with the arguments that it was started with. The reader says which options were given and what their
values are, or why the command line is not that of a run. How options are written is the reader's
matter, and no part of the declarations but their names.
-/

namespace PromptLine

/-- Why the command line is not that of a run. The first two are questions, not errors. -/
inductive UsageError where
  | displayHelp
  | displayVersion
  /-- No option has this name, or the argument belongs to none. -/
  | unknownArgument
  | missingValue
  | wrongValue
  | repeated
  | missingRequired
  /-- A value is given to an option that takes none. -/
  | unneededValue
deriving DecidableEq, Repr

/-- What a user is told when a run is refused. -/
def UsageError.message : UsageError → String
  | .displayHelp => "help was asked for"
  | .displayVersion => "the version was asked for"
  | .unknownArgument => "unexpected argument"
  | .missingValue => "an option has no value"
  | .wrongValue => "invalid value"
  | .repeated => "an option is given more than once"
  | .missingRequired => "a log file needs logging to be enabled"
  | .unneededValue => "an option takes no value"

namespace CommandLine

/-- What becomes of an option when it is given. -/
inductive Kind where
  /-- The option takes no value; all that counts is whether it is given. -/
  | flag
  /-- The value is a size. -/
  | size
  /-- The value is any text. -/
  | text
  /-- The option is a question, which is answered in place of a run. -/
  | asks (question : UsageError)
deriving DecidableEq, Repr

/-- Whether the option comes with a value. -/
def Kind.takesValue : Kind → Bool
  | .size | .text => true
  | .flag | .asks _ => false

/-- An option of a program that calls its options by the names `ι`. -/
structure Declared (ι : Type) where
  name : ι
  /-- The name in full, without the dashes before it. -/
  long : String
  letter? : Option Char := none
  kind : Kind
  /-- The value when the option is not given. -/
  usual? : Option String := none
  /-- The options that have to be given with this one. -/
  requires : List ι := []
  meaning : String
deriving DecidableEq, Repr

/-- What a reader has found out about the declared options. -/
structure Matches (ι : Type) where
  isGiven : ι → Bool
  /-- The value of an option as text: the one that was given, or the usual one. -/
  value? : ι → Option String

/-- **A reader of command lines**: from declared options and the arguments to what was given. -/
abbrev Reader (ι : Type) : Type :=
  List (Declared ι) → List String → Except UsageError (Matches ι)

end CommandLine

end PromptLine
