import PromptLine.Editor.Paint

/-!
# Handling a key

A bound key has its action carried out, a printable key is typed, and any other key is ignored.
The line and the history change first; then as much is painted as the change calls for: the whole
line when the text may have changed, only the cursor when no more than its place did, and nothing
when there was nowhere to go.
-/

namespace PromptLine.Editing

/-- What of the line has to be painted after a key. -/
inductive Paint where
  | nothing
  | cursor
  | line
deriving DecidableEq, Repr

/-- Paint what has to be painted, on the terminal as it is now. -/
def paint : Paint → Editing Unit
  | .nothing => pure ()
  | .cursor => placeCursor
  | .line => repaint

/-- The editor with another line, and what that calls for; nothing if there is none. -/
def withLine? (editor : Editor) (paint : Paint) (line? : Option Line) : Editor × Paint :=
  match line? with
  | some line => ({ editor with line := line }, paint)
  | none => (editor, .nothing)

/-- The editor after going to an entry of the history. The text of the line is replaced by the
entry, if there is one. -/
def withEntry (editor : Editor) (browsed : Option String × History) : Editor × Paint :=
  let browsing := { editor with history := browsed.2 }
  withLine? browsing .line (browsed.1.map fun entry => editor.line.replace entry.toList)

/-- The editor after an action, and what has to be painted. -/
def edited (editor : Editor) : Action → Editor × Paint
  | .escape => ({ editor with line := editor.line.clear }, .line)
  | .home => ({ editor with line := editor.line.toStart }, .cursor)
  | .toEnd => ({ editor with line := editor.line.toEnd }, .cursor)
  | .moveLeft => withLine? editor .cursor editor.line.left?
  | .moveRight => withLine? editor .cursor editor.line.right?
  | .historyPrevious => withEntry editor editor.history.previous
  | .historyNext => withEntry editor editor.history.next
  | .backspace => withLine? editor .line editor.line.backspace?
  | .delete => withLine? editor .line editor.line.delete?
  | .enter => ({ editor with line := editor.line.finish }, .nothing)
  | .tab =>
    let spaces := List.replicate editor.settings.tabWidth ' '
    ({ editor with line := editor.line.insert spaces }, .line)

/-- Perform an action: first the editor changes, then what changed is painted. -/
def act (action : Action) : Editing Unit := do
  let (editor, changed) := edited (← get) action
  set editor
  paint changed

/-- **Handle a key.** A bound key performs its action, and another one types its character if that
can be printed. -/
def handle (key : Key) : Editing Unit := do
  match (← get).bindings.find? key with
  | some action =>
    note (.dispatched action key)
    act action
  | none =>
    if key.isPrintable then
      note (.inserted key.character)
      modifyLine (Line.insertChar key.character)
      repaint
    else
      note (.ignored key)

end PromptLine.Editing
