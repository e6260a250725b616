import PromptLine.Editor

/-!
# Painting the line

A paint starts in the first column of the first row, writes the prompt and the text, and goes on
with spaces as far as the longest paint so far reached. Then the cursor is put in its place. While
it is not known where the line stands, nothing is painted.
-/

namespace PromptLine.Editing

/-- What a paint writes: prompt, text, and this many spaces. -/
def paintedText (line : Line) (padding : Nat) : String :=
  line.prompt ++ String.ofList (line.text ++ List.replicate padding ' ')

/-- Put the terminal's cursor where the cursor of the line is. -/
def placeCursor : Editing Unit := do
  let editor ← get
  if let some geometry := editor.geometry then
    call (.move (geometry.cursorPosition editor.line.cursor editor.line.promptLength))

/-- Paint the whole line, and put the cursor in its place. -/
def repaint : Editing Unit := do
  let editor ← get
  if let some geometry := editor.geometry then
    call (.move { col := 0, row := geometry.firstRow })
    let (padding, painted) := geometry.recordPaint editor.line.printedLength
    set { editor with geometry := some painted }
    call (.write (paintedText editor.line padding))
    placeCursor

end PromptLine.Editing
