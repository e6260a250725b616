import PromptLine.Program

/-!
# The command

The program on the terminal that it was started from. The terminal has to be in raw mode already:
keys arrive one by one and are not shown. Everything that is decided is decided by the library;
here its dialogue is carried out.
-/

namespace PromptLine.Interactive

/-- What is known of the keyboard. -/
structure Keyboard where
  /-- What has been taken in of an incomplete signal. -/
  decoding : Decoder.State := .idle
  inbox : Inbox := {}

/-- The streams, the keyboard and the log of a run. -/
structure Session where
  input : IO.FS.Stream
  output : IO.FS.Stream
  keyboard : IO.Ref Keyboard
  log? : Option (IO.FS.Handle × Threshold)

/-- What a failed operation means to the editor. -/
def failureKind : IO.Error → FailureKind
  | .resourceVanished .. => .brokenPipe
  | .permissionDenied .. => .permissionDenied
  | .timeExpired .. => .timedOut
  | .interrupted .. => .interrupted
  | .unexpectedEof => .unexpectedEof
  | _ => .other

/-- The result of an operation, or its failure. -/
def attempt {α : Type} (operation : IO α) : IO (Except TerminalError α) := do
  try return .ok (← operation) catch error => return .error (.io (failureKind error))

namespace Session

/-- Write an event to the log, if it passes. -/
def note (session : Session) (event : Event) : IO Unit := do
  if let some (file, threshold) := session.log? then
    if event.passes threshold then
      file.putStr (Log.record .plain event)
      file.flush

/-- Write a text to the terminal, without showing it yet. -/
def send (session : Session) (text : String) : IO Unit := session.output.putStr text

/-- Wait for more input, and say whether there was any. -/
def receive (session : Session) : IO Bool := do
  let received ← session.input.read (USize.ofNat Decoder.readSize)
  session.keyboard.modify fun keyboard =>
    let (decoding, signals) := Decoder.takeArrived keyboard.decoding received.toList
    { decoding, inbox := keyboard.inbox.receive signals }
  return !received.isEmpty

/-- What is looked for in the inbox, once it has arrived. There is none when the input has ended. -/
partial def await {α : Type} (session : Session) (find : Inbox → Option (α × Inbox)) :
    IO (Option α) := do
  let keyboard ← session.keyboard.get
  match find keyboard.inbox with
  | some (found, inbox) =>
    session.keyboard.set { keyboard with inbox }
    return some found
  | none =>
    if ← session.receive then session.await find else return none

/-- The next key, unless it ends the input. -/
def readKey (session : Session) : IO (Option Key) := do
  match ← session.await Inbox.key? with
  | none => return none
  | some (code, modifiers) =>
    if Emulated.endsInput code modifiers then
      session.note (.endRequested code)
      return none
    else return some (.press code modifiers)

/-- The row of the cursor, which a terminal tells when it is asked. -/
def cursorRow (session : Session) : IO UInt16 := do
  session.send Ansi.askCursor
  session.output.flush
  match ← session.await Inbox.place? with
  | some row => return row
  | none => throw .unexpectedEof

/-- The number of columns, which the environment knows. -/
def width : IO UInt16 := do
  let columns? := (← IO.getEnv "COLUMNS").bind fun text => Text.number? UInt16.size text.toList
  return .ofNat (columns?.getD 80)

/-- Answer a call on the terminal. -/
def answer (session : Session) (call : Call) : IO (Except TerminalError call.Reply) :=
  match call with
  | .readKey _ => attempt session.readKey
  | .cursorRow => attempt session.cursorRow
  | .width => attempt width
  | .flush => attempt session.output.flush
  | .write text => attempt (session.send (Ansi.sent (.write text)))
  | .writeLine text => attempt (session.send (Ansi.sent (.writeLine text)))
  | .move position => attempt (session.send (Ansi.sent (.move position)))
  | .foreground color => attempt (session.send (Ansi.sent (.foreground color)))
  | .resetColor => attempt (session.send (Ansi.sent .resetColor))

/-- Carry out a dialogue with the terminal of a session. -/
def perform {α : Type} (session : Session) : Dialogue α → IO α
  | .done result => return result
  | .ask call next => do
    let reply ← session.answer call
    session.perform (next reply)
  | .note event next => do
    session.note event
    session.perform next

end Session

/-- How the help page is shown: with the columns of the terminal if it is shown on one. -/
def page : IO CommandLine.Page := do
  if ← (← IO.getStdout).isTty then
    return { width := (← Session.width).toNat, styled := true }
  else return {}

/-- Open the log file of a path; the folders on the way are made. -/
def openLog (path : String) : IO (Except Log.SetupError IO.FS.Handle) := do
  match File.Path.fileName path with
  | .noFolder => return .error (.noFolder path)
  | .noName => return .error (.noFileName path)
  | .file folder name =>
    try
      unless folder.isEmpty do
        IO.FS.createDirAll (File.Path.written folder)
      return .ok (← IO.FS.Handle.mk (File.Path.written (folder ++ [.entry name])) .append)
    catch _ => return .error (.cannotOpen path)

/-- Run on a terminal once the log is open. -/
def runOn (options : Options) (log? : Option (IO.FS.Handle × Threshold)) : IO Nat := do
  let (input, output) := (← IO.getStdin, ← IO.getStdout)
  unless (← input.isTty) do
    (← IO.getStderr).putStrLn (TerminalError.io .unsupported).message
    return Program.failure
  let session : Session := { input, output, keyboard := ← IO.mkRef {}, log? }
  session.send Ansi.enableWrap
  let editor := Editor.new (Program.settings options) .standard
  let talk := Program.interact Text.sizeLimit Text.sizeLimit
  let (result, _) ← session.perform (Editing.dialogue talk editor)
  session.send Ansi.resetColor
  output.flush
  if let .error error := result then
    (← IO.getStderr).putStrLn error.message
  return Program.exitCode result

/-- Run the program with its options. A log file that cannot be opened ends it. -/
def run (options : Options) : IO Nat := do
  match Program.logConfig? options with
  | none => runOn options none
  | some config =>
    match ← openLog (config.writer.path?.getD Log.Config.defaultPath) with
    | .ok file => runOn options (some (file, config.threshold))
    | .error error =>
      (← IO.getStderr).putStrLn (error.message?.getD "the log file cannot be opened")
      return Program.exitCodeOfLog error

end PromptLine.Interactive

/-- The program, from its arguments to its exit code. -/
def main (arguments : List String) : IO UInt32 := do
  match PromptLine.CommandLine.parse arguments with
  | .ok options => return UInt32.ofNat (← PromptLine.Interactive.run options)
  | .error error =>
    let (text, exit) := PromptLine.Program.answerUsage (← PromptLine.Interactive.page) error
    if text.isEmpty then (← IO.getStderr).putStrLn error.message else IO.print text
    return UInt32.ofNat exit
