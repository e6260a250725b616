import PromptLine.Proofs.Console.Performing
import PromptLine.Terminal.Scripted

/-!
# Painting on a scripted terminal

As long as its writes succeed, what a scripted terminal makes of a paint is known beforehand: the
operations that are recorded are `Editor.operations`, and nothing fails. Recording leaves the script,
the width and the writes as they are, so one paint after the other is known too.
-/

namespace PromptLine

namespace Script

/-- The terminal after operations that write some text. -/
def recordAll (operations : List Operation) (script : Script) : Script :=
  operations.foldl (fun reached operation => reached.record operation) script

@[simp] theorem recordAll_nil (script : Script) : script.recordAll [] = script := rfl

@[simp] theorem recordAll_cons (operation : Operation) (rest : List Operation) (script : Script) :
    script.recordAll (operation :: rest) = (script.record operation).recordAll rest := rfl

/-- Recording changes nothing but the record and the place of the cursor. -/
theorem recordAll_eq (operations : List Operation) (script : Script) :
    script.recordAll operations = { script with
      operations := (script.recordAll operations).operations
      captured := (script.recordAll operations).captured
      cursor := (script.recordAll operations).cursor } := by
  induction operations generalizing script with
  | nil => rfl
  | cons operation rest ih =>
    rw [recordAll_cons, ih]
    rfl

/-- What is recorded comes after what was recorded before. -/
theorem recordAll_operations (operations : List Operation) (script : Script) :
    (script.recordAll operations).operations.toList = script.operations.toList ++ operations := by
  induction operations generalizing script with
  | nil => exact (List.append_nil _).symm
  | cons operation rest ih =>
    rw [recordAll_cons, ih]
    simp only [record, Array.toList_push, List.append_assoc, List.cons_append, List.nil_append]

/-- As long as writes succeed, an operation is recorded. -/
theorem screen_of_works {script : Script} (works : script.writeFailure? = none)
    (operation : Operation) :
    script.screen operation = { reply := .ok (), terminal := script.record operation } := by
  unfold screen
  rw [works]

end Script

namespace Editor

/-- The operations that paint what has to be painted. -/
def operations (changed : Editing.Paint) (editor : Editor) : List Operation :=
  match editor.geometry, changed with
  | some geometry, .cursor =>
    [.move (geometry.cursorPosition editor.line.cursor editor.line.promptLength)]
  | some geometry, .line =>
    let padding := (geometry.recordPaint editor.line.printedLength).1
    [.move { col := 0, row := geometry.firstRow },
      .write (Editing.paintedText editor.line padding),
      .move (geometry.cursorPosition editor.line.cursor editor.line.promptLength)]
  | _, _ => []

/-- The editor after what had to be painted was painted. -/
def painted (changed : Editing.Paint) (editor : Editor) : Editor :=
  match editor.geometry, changed with
  | some geometry, .line =>
    { editor with geometry := some (geometry.recordPaint editor.line.printedLength).2 }
  | _, _ => editor

/-- Painting what has changed leaves the rest of the editor as it is. -/
theorem repaints_painted (changed : Editing.Paint) (editor : Editor) :
    editor.Repaints (editor.painted changed) := by
  unfold painted
  split <;> rfl

end Editor

namespace Console

/-- The console after operations on its screen. -/
def shows (operations : List Operation) (console : Console Script) : Console Script :=
  { console with stage :=
    { console.stage with terminal := console.stage.terminal.recordAll operations } }

@[simp] theorem shows_editor (operations : List Operation) (console : Console Script) :
    (console.shows operations).editor = console.editor := rfl

/-- The console after painting. -/
def paints (changed : Editing.Paint) (console : Console Script) : Console Script :=
  { console.shows (console.editor.operations changed) with
    editor := console.editor.painted changed }

@[simp] theorem paints_nothing (console : Console Script) : console.paints .nothing = console := by
  unfold paints Editor.operations Editor.painted
  cases console.editor.geometry with
  | none => rfl
  | some geometry => rfl

/-- Moving the cursor leaves the editor as it is. -/
theorem paints_cursor (console : Console Script) :
    console.paints .cursor = console.shows (console.editor.operations .cursor) := by
  unfold paints Editor.painted
  cases console.editor.geometry with
  | none => rfl
  | some geometry => rfl

/-- A paint that does not paint the line moves the cursor at most. -/
theorem paints_of_ne_line (console : Console Script) {changed : Editing.Paint}
    (unpainted : changed ≠ .line) :
    console.paints changed = console ∨
      ∃ position, console.paints changed = console.shows [.move position] := by
  cases changed with
  | line => exact absurd rfl unpainted
  | nothing => exact Or.inl console.paints_nothing
  | cursor =>
    rw [paints_cursor]
    unfold Editor.operations
    cases console.editor.geometry with
    | none => exact Or.inl rfl
    | some geometry => exact Or.inr ⟨_, rfl⟩

/-- Painting changes the place on the screen only. -/
theorem repaints_paints (changed : Editing.Paint) (console : Console Script) :
    console.editor.Repaints (console.paints changed).editor :=
  console.editor.repaints_painted changed

section Works
variable (console : Console Script) (works : console.stage.terminal.writeFailure? = none)
include works

omit works in
/-- A call that the terminal answers by recording an operation. -/
theorem perform_record {call : Call} {reply : call.Reply} {operation : Operation}
    (answered : Script.answer call console.stage.terminal =
      { reply := .ok reply, terminal := console.stage.terminal.record operation }) :
    console.perform Script.terminal (Editing.call call) =
      (.ok reply, console.shows [operation]) := by
  rw [perform_call]
  simp only [Script.terminal, answered, Array.appendList_nil]
  rfl

/-- A write on a terminal that works is recorded and succeeds. -/
theorem perform_write (text : String) :
    console.perform Script.terminal (Editing.call (.write text)) =
      (.ok (), console.shows [.write text]) :=
  console.perform_record (Script.screen_of_works works (.write text))

/-- A line that is written on a terminal that works is recorded, and that succeeds. -/
theorem perform_writeLine (text : String) :
    console.perform Script.terminal (Editing.call (.writeLine text)) =
      (.ok (), console.shows [.writeLine text]) :=
  console.perform_record (Script.screen_of_works works (.writeLine text))

/-- A move on a terminal that works is recorded and succeeds. -/
theorem perform_move (position : Position) :
    console.perform Script.terminal (Editing.call (.move position)) =
      (.ok (), console.shows [.move position]) :=
  console.perform_record (Script.screen_of_works works (.move position))

/-- A colour that is set on a terminal that works is recorded, and that succeeds. -/
theorem perform_foreground (color : Color) :
    console.perform Script.terminal (Editing.call (.foreground color)) =
      (.ok (), console.shows [.foreground color]) :=
  console.perform_record (Script.screen_of_works works (.foreground color))

/-- A colour that is taken back on a terminal that works is recorded, and that succeeds. -/
theorem perform_resetColor :
    console.perform Script.terminal (Editing.call .resetColor) =
      (.ok (), console.shows [.resetColor]) :=
  console.perform_record (Script.screen_of_works works .resetColor)

omit works in
/-- A flush is recorded and succeeds. -/
theorem perform_flush :
    console.perform Script.terminal (Editing.call .flush) = (.ok (), console.shows [.flush]) :=
  console.perform_record rfl

/-- Placing the cursor paints the cursor, on a terminal that works. -/
theorem perform_placeCursor :
    console.perform Script.terminal Editing.placeCursor = (.ok (), console.paints .cursor) := by
  unfold Editing.placeCursor paints Editor.operations Editor.painted
  rw [perform_get_bind]
  cases console.editor.geometry with
  | none => rfl
  | some geometry => exact perform_move console works _

/-- Repainting paints the line, on a terminal that works. -/
theorem perform_repaint :
    console.perform Script.terminal Editing.repaint = (.ok (), console.paints .line) := by
  unfold Editing.repaint
  rw [perform_get_bind]
  cases located : console.editor.geometry with
  | none =>
    unfold paints Editor.operations Editor.painted
    rw [located]
    rfl
  | some geometry =>
    let recorded := geometry.recordPaint console.editor.line.printedLength
    let text := Editing.paintedText console.editor.line recorded.1
    let moved := console.shows [.move { col := 0, row := geometry.firstRow }]
    let changed := { moved with editor := { console.editor with geometry := some recorded.2 } }
    let written := changed.shows [.write text]
    have wrote : changed.perform Script.terminal (Editing.call (.write text)) = (.ok (), written) :=
      perform_write changed works text
    have placed : written.perform Script.terminal Editing.placeCursor =
        (.ok (), written.paints .cursor) :=
      perform_placeCursor written works
    have painted : written.paints .cursor = console.paints .line := by
      rw [paints_cursor]
      unfold paints Editor.operations Editor.painted
      rw [located]
      rfl
    dsimp only
    rw [perform_bind_of_ok (perform_move console works _), perform_bind_of_ok (perform_set ..)]
    exact (perform_bind_of_ok wrote).trans (placed.trans (congrArg _ painted))

/-- **Painting on a scripted terminal** never fails while its writes succeed. -/
theorem perform_paint (changed : Editing.Paint) :
    console.perform Script.terminal (Editing.paint changed) = (.ok (), console.paints changed) := by
  cases changed with
  | nothing => exact congrArg _ console.paints_nothing.symm
  | cursor => exact perform_placeCursor console works
  | line => exact perform_repaint console works

end Works

end Console

end PromptLine
