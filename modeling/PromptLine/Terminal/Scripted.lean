import PromptLine.Dialogue
import PromptLine.Terminal.Captured

/-!
# A scripted terminal

A terminal that takes its keys from a script and records what is asked of it. The script can also
change the number of columns between two keys and make a read fail. The cursor is simulated: text
advances it by one column a character and wraps it at the last column.
-/

namespace PromptLine

/-- One line of a script: a key that is typed, a new number of columns, or a read that fails. -/
inductive Input where
  | key (key : Key)
  | resize (width : UInt16)
  | fail (kind : FailureKind)
deriving DecidableEq, Repr

/-- One call that changes the screen, as it is recorded. -/
inductive Operation where
  | write (text : String)
  | writeLine (text : String)
  | move (position : Position)
  | foreground (color : Color)
  | resetColor
  | flush
deriving DecidableEq, Repr

/-- What an operation writes. -/
def Operation.text : Operation → String
  | .write text => text
  | .writeLine text => text ++ "\n"
  | _ => ""

/-- Where an operation moves the cursor, if it is a move. -/
def Operation.target? : Operation → Option Position
  | .move position => some position
  | _ => none

/-- **A scripted terminal**: what is still to come, where the cursor is, and what was recorded. -/
structure Script where
  inputs : List Input
  width : UInt16
  cursor : Position := { col := 0, row := 0 }
  captured : Captured := .empty
  operations : Array Operation := #[]
  /-- For each read, whether the key was to be intercepted. -/
  intercepts : Array Bool := #[]
  /-- Why every write fails, while it does. -/
  writeFailure? : Option FailureKind := none

namespace Script

/-- A number one larger, unless it is the largest of its type. -/
def succ (n : UInt16) : UInt16 := .ofNatClamp (n.toNat + 1)

/-- Where the cursor is after one character on a terminal of a given width. A terminal without
columns is treated as one with a single column. -/
def advanceChar (width : UInt16) (cursor : Position) (c : Char) : Position :=
  let below : Position := { col := 0, row := succ cursor.row }
  if c = '\n' ∨ max width 1 ≤ succ cursor.col then below
  else { cursor with col := succ cursor.col }

/-- Where the cursor is after a text. -/
def advance (width : UInt16) (cursor : Position) (text : List Char) : Position :=
  text.foldl (advanceChar width) cursor

/-- What a read finds in a script on a terminal of a given width: the key or the failure to deliver
and the rest of the script, with the width that holds then. -/
def deliver (width : UInt16) :
    List Input → Except TerminalError (Option Key) × List Input × UInt16
  | [] => (.ok none, [], width)
  | .key key :: rest => (.ok (some key), rest, width)
  | .resize newWidth :: rest => deliver newWidth rest
  | .fail kind :: rest => (.error (.io kind), rest, width)

/-- The terminal after a read, which is recorded with its flag. -/
def afterRead (intercept : Bool) (script : Script) : Script :=
  let (_, inputs, width) := deliver script.width script.inputs
  { script with inputs, width, intercepts := script.intercepts.push intercept }

/-- The terminal after an operation that writes some text. -/
def record (operation : Operation) (script : Script) : Script :=
  { script with
    operations := script.operations.push operation
    captured := script.captured.write operation.text
    cursor := operation.target?.getD
      (advance script.width script.cursor operation.text.toList) }

/-- An operation on the screen: recorded, unless writes fail. -/
def screen (operation : Operation) (script : Script) : Answer Script Unit :=
  match script.writeFailure? with
  | some kind => { reply := .error (.io kind), terminal := script }
  | none => { reply := .ok (), terminal := script.record operation }

/-- What a scripted terminal does about a call. Flushing never fails. -/
def answer : (call : Call) → Script → Answer Script call.Reply
  | .readKey intercept, script =>
    { reply := (deliver script.width script.inputs).1, terminal := script.afterRead intercept }
  | .write text, script => script.screen (.write text)
  | .writeLine text, script => script.screen (.writeLine text)
  | .cursorRow, script => { reply := .ok script.cursor.row, terminal := script }
  | .width, script => { reply := .ok script.width, terminal := script }
  | .move position, script => script.screen (.move position)
  | .foreground color, script => script.screen (.foreground color)
  | .resetColor, script => script.screen .resetColor
  | .flush, script => { reply := .ok (), terminal := script.record .flush }

/-- The terminal that answers calls from a script. -/
def terminal : Terminal Script where
  answer := answer

/-- More inputs after those that are there. -/
def push (inputs : List Input) (script : Script) : Script :=
  { script with inputs := script.inputs ++ inputs }

/-- The record of the screen dropped. The script and the cursor stay. -/
def clearRecording (script : Script) : Script :=
  { script with operations := #[], captured := .empty }

/-- The places that the cursor was moved to, in order. -/
def moves (script : Script) : List Position :=
  script.operations.toList.filterMap Operation.target?

/-- What was written, if it is a text. -/
def output? (script : Script) : Option String := script.captured.text?

/-- The script that types a text. -/
def typing (text : String) : List Input := text.toList.map fun c => .key (Key.ofChar c)

end Script

end PromptLine
