import PromptLine.CommandLine.Declared

/-!
# Reading a command line

An option is written in full after two dashes, with its value after an equals sign or as the next
argument, or as one letter after one dash, with its value right after it, after an equals sign, or
as the next argument; several letters may share one dash. An option is given once at most, and the
options that another one requires have to be given with it.

Arguments are read from left to right, and the first one that is wrong decides. A value that stands
alone is looked at only when the next option comes or the arguments end. So an unknown argument
goes before a wrong value just before it.
-/

namespace PromptLine.CommandLine

/-- What an argument looks like, whichever options are declared. -/
inductive Form where
  /-- Two dashes and nothing else: no options follow. -/
  | endOfOptions
  | long (name : String) (value? : Option String)
  | short (letters : List Char)
  | plain
deriving DecidableEq, Repr

/-- A name and what follows the first equals sign after it, if there is one. -/
def splitValue (text : List Char) : String × Option String :=
  let name := String.ofList (text.takeWhile (· != '='))
  match text.dropWhile (· != '=') with
  | [] => (name, none)
  | _ :: value => (name, some (String.ofList value))

/-- The form of an argument is decided by the dashes that it starts with. -/
def form (argument : String) : Form :=
  match argument.toList with
  | ['-', '-'] => .endOfOptions
  | '-' :: '-' :: text => .long (splitValue text).1 (splitValue text).2
  | ['-'] => .plain
  | '-' :: letters => .short letters
  | _ => .plain

/-- Whether a value can be given to an option. The text of an option without a value is empty. -/
def Kind.check (value : String) : Kind → Except UsageError Unit
  | .flag | .text => .ok ()
  | .size => if (Text.size? value).isSome then .ok () else .error .wrongValue
  | .asks question => .error question

variable {ι : Type} [DecidableEq ι]

/-- How far the arguments have been read. -/
structure State (ι : Type) where
  /-- The options that were given, the newest first, with their values. -/
  given : List (ι × String) := []
  /-- An option whose value stands alone, and that value once it has been seen. -/
  open? : Option (Declared ι × Option String) := none
  /-- Whether options may still follow. -/
  optionsEnded : Bool := false

/-- What is found out by options that were given with their values. -/
def Matches.ofGiven (declared : List (Declared ι)) (given : List (ι × String)) : Matches ι where
  isGiven name := (given.lookup name).isSome
  value? name :=
    given.lookup name <|> (declared.find? fun option => option.name == name).bind (·.usual?)

namespace State

/-- An option given once more. -/
def give (option : Declared ι) (value : String) (state : State ι) : Except UsageError (State ι) :=
  if (state.given.lookup option.name).isSome then .error .repeated
  else do
    option.kind.check value
    .ok { state with given := (option.name, value) :: state.given }

/-- The option whose value stands alone is taken as given. -/
def close (state : State ι) : Except UsageError (State ι) :=
  match state.open? with
  | none => .ok state
  | some (_, none) => .error .missingValue
  | some (option, some value) => ({ state with open? := none }).give option value

/-- An option with its value, if it takes one. -/
def option (option : Declared ι) (value? : Option String) (state : State ι) :
    Except UsageError (State ι) := do
  let closed ← state.close
  if option.kind.takesValue then
    match value? with
    | some value => closed.give option value
    | none => .ok { closed with open? := some (option, none) }
  else closed.give option ""

/-- An option in full, with what stands after its equals sign. -/
def long (declared : List (Declared ι)) (name : String) (value? : Option String)
    (state : State ι) : Except UsageError (State ι) :=
  match declared.find? fun option => option.long == name with
  | none => .error .unknownArgument
  | some option =>
    if !option.kind.takesValue && value?.isSome then .error .unneededValue
    else state.option option value?

/-- Letters after a dash. What follows the letter of an option with a value is the value. -/
def short (declared : List (Declared ι)) (state : State ι) :
    List Char → Except UsageError (State ι)
  | [] => .ok state
  | letter :: rest =>
    match declared.find? fun option => option.letter? == some letter with
    | none => .error .unknownArgument
    | some option =>
      if option.kind.takesValue then
        match rest with
        | [] => state.option option none
        | '=' :: value => state.option option (some (String.ofList value))
        | value => state.option option (some (String.ofList value))
      else do
        let after ← state.option option none
        after.short declared rest

/-- An argument that is no option. It can only be the value of the option before it. -/
def plain (argument : String) (state : State ι) : Except UsageError (State ι) :=
  match state.open? with
  | some (option, none) => .ok { state with open? := some (option, some argument) }
  | _ => .error .unknownArgument

/-- One more argument is read. -/
def argument (declared : List (Declared ι)) (text : String) (state : State ι) :
    Except UsageError (State ι) :=
  if state.optionsEnded then .error .unknownArgument
  else
    match form text with
    | .endOfOptions => .ok { state with optionsEnded := true }
    | .long name value? => state.long declared name value?
    | .short letters => state.short declared letters
    | .plain => state.plain text

/-- Whether the options that are required have been given. -/
def isComplete (declared : List (Declared ι)) (state : State ι) : Bool :=
  declared.all fun option => (state.given.lookup option.name).isNone ||
    option.requires.all fun name => (state.given.lookup name).isSome

/-- What was given, when all arguments have been read. -/
def result (declared : List (Declared ι)) (state : State ι) : Except UsageError (Matches ι) := do
  let closed ← state.close
  if closed.isComplete declared then .ok (.ofGiven declared closed.given)
  else .error .missingRequired

end State

/-- **The reader that comes with the library.** -/
def Reader.standard : Reader ι := fun declared arguments => do
  let state ← arguments.foldlM (fun state text => state.argument declared text) ({} : State ι)
  state.result declared

end PromptLine.CommandLine
