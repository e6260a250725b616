import PromptLine.Dialogue
import PromptLine.Terminal.Ansi
import PromptLine.Terminal.Inbox

/-!
# An emulated terminal

A terminal with a person at it who acts whenever the terminal is asked where its cursor is: the
window may get another width, the answer is given, and keys are typed. Answer and keys arrive as
bytes on one line, so an answer can be lost in a key that is not complete; then the terminal has
failed. The keys wait until they are read. When the person has nothing left to do, the cursor is in
the top row and the end of the input is asked for.

Control and `c`, or control and `d`, end the input.
-/

namespace PromptLine

/-- What happens when the terminal is asked where its cursor is. -/
structure Turn where
  row : UInt16
  /-- The new number of columns, if it changes. -/
  width? : Option UInt16 := none
  typed : String
deriving DecidableEq, Repr

namespace Turn

/-- The end of the input is asked for with the cursor in the top row. -/
def last : Turn where
  row := 0
  typed := "\x04"

/-- The bytes that arrive: the answer, and the characters typed. -/
def bytes (turn : Turn) : List UInt8 := (Ansi.cursorReport turn.row ++ turn.typed).toUTF8.toList

end Turn

/-- **A terminal** that is driven by the bytes it sends, one turn after the other. -/
structure Emulated where
  width : UInt16
  turns : List Turn
  inbox : Inbox := {}
  /-- What has been taken in of an incomplete signal. -/
  decoding : Decoder.State := .idle
  sent : String := ""
  /-- How often the terminal was asked where its cursor is. -/
  queries : Nat := 0

namespace Emulated

/-- Whether a key ends the input. -/
def endsInput (code : KeyCode) (modifiers : Modifiers) : Bool :=
  modifiers == .controlOnly && (code == .char 'c' || code == .char 'd')

/-- The next key. When no key waits, nobody is there to type one and the input ends. -/
def readKey (terminal : Emulated) : Answer Emulated (Option Key) :=
  match terminal.inbox.key? with
  | none => { reply := .ok none, terminal }
  | some ((code, modifiers), inbox) =>
    if endsInput code modifiers then
      { reply := .ok none, terminal := { terminal with inbox },
        events := [.endRequested code] }
    else { reply := .ok (some (.press code modifiers)), terminal := { terminal with inbox } }

/-- The terminal after one turn: its width may be new and more bytes have arrived. -/
def afterTurn (turn : Turn) (terminal : Emulated) : Emulated :=
  let (decoding, signals) := Decoder.takeArrived terminal.decoding turn.bytes
  { terminal with
    width := turn.width?.getD terminal.width
    turns := terminal.turns.tail
    inbox := terminal.inbox.receive signals
    decoding
    queries := terminal.queries + 1 }

/-- The row of the cursor, which is asked for. No answer within reach counts as a failure. -/
def cursorRow (terminal : Emulated) : Answer Emulated UInt16 :=
  let asked := terminal.afterTurn (terminal.turns.head?.getD .last)
  match asked.inbox.place? with
  | some (row, inbox) => { reply := .ok row, terminal := { asked with inbox } }
  | none => { reply := .error (.io .other), terminal := asked }

/-- A text sent to the terminal. -/
def send (text : String) (terminal : Emulated) : Emulated :=
  { terminal with sent := terminal.sent ++ text }

/-- What an emulated terminal does about a call. -/
def answer (call : Call) (terminal : Emulated) : Answer Emulated call.Reply :=
  let after := terminal.send (Ansi.sent call)
  match call with
  | .readKey _ => readKey after
  | .cursorRow => cursorRow after
  | .width => { reply := .ok after.width, terminal := after }
  | .write _ | .writeLine _ | .move _ | .foreground _ | .resetColor | .flush =>
    { reply := .ok (), terminal := after }

/-- The terminal that answers calls in this way. -/
def terminal : Terminal Emulated where
  answer := answer

/-- A number of reads after which the input has ended. -/
def patience (terminal : Emulated) : Nat :=
  terminal.inbox.arrived.length + terminal.inbox.events.length +
    (terminal.turns.flatMap fun turn => turn.bytes).length + terminal.turns.length + 2

end Emulated

end PromptLine
