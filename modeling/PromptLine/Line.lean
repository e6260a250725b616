/-!
# The line in progress

A prompt, the characters typed so far, and a cursor between them. A line is plain data and knows
nothing of a terminal. Requests out of range are never errors: a cursor position is clamped to the
text, and a step that has nowhere to go answers `none`.
-/

namespace PromptLine

/-- A line being edited. The cursor counts the characters before it. -/
structure Line where
  prompt : String := ""
  text : List Char := []
  /-- The number of characters before the cursor. -/
  cursor : Nat := 0
  finished : Bool := false
deriving DecidableEq, Repr, Inhabited

namespace Line

/-- The empty line after a prompt. -/
def start (prompt : String) : Line where
  prompt := prompt

/-- The number of characters of the prompt. -/
def promptLength (line : Line) : Nat := line.prompt.length

/-- The number of characters that were typed and not deleted. -/
def length (line : Line) : Nat := line.text.length

/-- The number of characters that a painted line covers: those of the prompt and of the text. -/
def printedLength (line : Line) : Nat := line.promptLength + line.length

/-- The position of the cursor counted from the start of the prompt. -/
def cursorOffset (line : Line) : Nat := line.cursor + line.promptLength

/-- What was typed, as a text. -/
def content (line : Line) : String := String.ofList line.text

/-- Whether nothing is typed. -/
def isEmpty (line : Line) : Bool := line.text.isEmpty

/-- The cursor at a position, or at the end of the text if that comes first. -/
def setCursor (position : Nat) (line : Line) : Line :=
  { line with cursor := min position line.length }

/-- The cursor before the first character. -/
def toStart (line : Line) : Line := { line with cursor := 0 }

/-- The cursor after the last character. -/
def toEnd (line : Line) : Line := { line with cursor := line.length }

/-- One character to the left, unless the cursor is at the start. -/
def left? (line : Line) : Option Line :=
  if line.cursor = 0 then none else some { line with cursor := line.cursor - 1 }

/-- One character to the right, unless the cursor is at the end. -/
def right? (line : Line) : Option Line :=
  if line.cursor = line.length then none else some { line with cursor := line.cursor + 1 }

/-- Characters put in at the cursor, which moves past them. -/
def insert (added : List Char) (line : Line) : Line :=
  { line with
    text := line.text.take line.cursor ++ (added ++ line.text.drop line.cursor)
    cursor := line.cursor + added.length }

/-- One character put in at the cursor, which moves past it. -/
def insertChar (c : Char) (line : Line) : Line :=
  { line with
    text := line.text.take line.cursor ++ c :: line.text.drop line.cursor
    cursor := line.cursor + 1 }

/-- The line without the character before the cursor, if there is one. -/
def backspace? (line : Line) : Option Line :=
  if line.cursor = 0 then none
  else some { line with text := line.text.eraseIdx (line.cursor - 1), cursor := line.cursor - 1 }

/-- The line without the character after the cursor, if there is one. -/
def delete? (line : Line) : Option Line :=
  if line.cursor = line.length then none
  else some { line with text := line.text.eraseIdx line.cursor }

/-- Drop the text. The prompt stays. -/
def clear (line : Line) : Line := { line with text := [], cursor := 0 }

/-- Another text in place of the one typed, with the cursor at its end. -/
def replace (text : List Char) (line : Line) : Line :=
  { line with text := text, cursor := text.length }

/-- Mark the line as finished. -/
def finish (line : Line) : Line := { line with finished := true }

end Line

end PromptLine
