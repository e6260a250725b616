import PromptLine.Editor.Handle

/-!
# Reading a line

A session starts with an empty line after a prompt where the cursor is. It handles keys until the
line is entered or the input ends. An entered line goes into the history; at the end of the input
the text is dropped. A failure of the terminal abandons the session.

A user may type without end, so a session is given a number of keys that it may read. When it has
read them all and the line is not entered, there is no outcome yet.
-/

namespace PromptLine

/-- What a session ends with. -/
inductive Reading where
  | line (text : String)
  | endOfInput
deriving DecidableEq, Repr

/-- The line, if one was entered. -/
def Reading.line? : Reading → Option String
  | .line text => some text
  | .endOfInput => none

namespace Editing

/-- Start with an empty line after a prompt, and paint it. -/
def begin (prompt : String) : Editing Unit := do
  modifyLine fun _ => Line.start prompt
  captureGeometry
  repaint
  call .flush

/-- Take a change of the terminal's width into account. -/
def refreshGeometry : Editing Unit := do
  let editor ← get
  if let some geometry := editor.geometry then
    if let some resized ← talk (geometry.refreshed editor.line.cursorOffset) then
      set { editor with geometry := some resized }
      placeCursor

/-- Handle a key that was read, on a terminal that may have changed before. -/
def respond (key : Key) : Editing Unit := do
  refreshGeometry
  handle key
  call .flush

/-- End a session with the line entered. -/
def commit : Editing Reading := do
  modifyLine Line.toEnd
  placeCursor
  call (.writeLine "")
  call .flush
  let editor ← get
  let text := editor.line.content
  if !text.isEmpty || editor.settings.keepsEmptyLines then
    remember text
  note (.committed text.length (← get).history.length)
  pure (.line text)

/-- End a session because the input ended. -/
def abandon : Editing Reading := do
  note (.endOfInput (← get).line.length)
  modifyLine Line.clear
  call (.writeLine "")
  call .flush
  pure .endOfInput

/-- Handle keys until the session ends, but not more than a given number. -/
def handleKeys : Nat → Editing (Option Reading)
  | 0 => do
    if (← get).line.finished then some <$> commit else pure none
  | keys + 1 => do
    if (← get).line.finished then
      some <$> commit
    else
      match ← call (.readKey true) with
      | none => some <$> abandon
      | some key =>
        respond key
        handleKeys keys

/-- **Read a line** with at most so many keys. A failure is noted before it is passed on. -/
def readLine (keys : Nat) (prompt : String) : Editing (Option Reading) :=
  tryCatch (do begin prompt; handleKeys keys) fun error => do
    note (.failed error)
    throw error

end Editing

end PromptLine
