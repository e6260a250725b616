import Mathlib.Data.List.Basic
import PromptLine.Line

/-!
# The two halves of a line

The cursor cuts the text of a line in two. What an edit does can be said of the halves alone: it
takes a character from the end of the first or from the start of the second, puts some at the end of
the first, or moves the cut. `PromptLine.Line.Cut` says that a line is cut like that, and every edit
of the line keeps it with the edit of the halves.
-/

namespace PromptLine

/-- The text before the cursor and the text after it. -/
structure Halves where
  before : List Char := []
  after : List Char := []
deriving DecidableEq, Repr

namespace Halves

/-- The whole text. -/
def text (halves : Halves) : List Char := halves.before ++ halves.after

/-- The cut before the first character. -/
def toStart (halves : Halves) : Halves where
  after := halves.text

/-- The cut after the last character. -/
def toEnd (halves : Halves) : Halves where
  before := halves.text

/-- The cut one character to the left. -/
def left (halves : Halves) : Halves :=
  match halves.before.getLast? with
  | some c => { before := halves.before.dropLast, after := c :: halves.after }
  | none => halves

/-- The cut one character to the right. -/
def right (halves : Halves) : Halves :=
  match halves.after with
  | c :: rest => { before := halves.before ++ [c], after := rest }
  | [] => halves

/-- Characters put in before the cut. -/
def insert (added : List Char) (halves : Halves) : Halves :=
  { halves with before := halves.before ++ added }

/-- No character before the cut. -/
def backspace (halves : Halves) : Halves :=
  { halves with before := halves.before.dropLast }

/-- No character after the cut. -/
def delete (halves : Halves) : Halves :=
  { halves with after := halves.after.tail }

end Halves

namespace Line

/-- **A line cut in two** by its cursor. -/
structure Cut (line : Line) (halves : Halves) : Prop where
  text : line.text = halves.before ++ halves.after
  cursor : line.cursor = halves.before.length

/-- A line that starts has nothing on either side of the cursor. -/
theorem cut_start (prompt : String) : (Line.start prompt).Cut {} := ⟨rfl, rfl⟩

namespace Cut
variable {line : Line} {halves : Halves}

/-- A line is as long as its halves together. -/
theorem length_eq (cut : line.Cut halves) :
    line.length = halves.before.length + halves.after.length := by
  rw [length, cut.text, List.length_append]

/-- A finished line is cut as it was before. -/
theorem finish (cut : line.Cut halves) : line.finish.Cut halves := ⟨cut.text, cut.cursor⟩

/-- At the start everything is after the cursor. -/
theorem toStart (cut : line.Cut halves) : line.toStart.Cut halves.toStart := ⟨cut.text, rfl⟩

/-- At the end everything is before the cursor. -/
theorem toEnd (cut : line.Cut halves) : line.toEnd.Cut halves.toEnd where
  text := by
    rw [Halves.toEnd, List.append_nil]
    exact cut.text
  cursor := by
    rw [Halves.toEnd, Halves.text, ← cut.text]
    rfl

/-- A line that is replaced has all its text before the cursor. -/
theorem replace (line : Line) (text : List Char) : (line.replace text).Cut { before := text } :=
  ⟨(List.append_nil text).symm, rfl⟩

/-- A line that is cleared has nothing on either side of the cursor. -/
theorem clear (line : Line) : line.clear.Cut {} := ⟨rfl, rfl⟩

/-- What is inserted ends up before the cursor. -/
theorem insert (cut : line.Cut halves) (added : List Char) :
    (line.insert added).Cut (halves.insert added) where
  text := by
    simp only [Line.insert, Halves.insert, cut.text, cut.cursor, List.take_left, List.drop_left,
      List.append_assoc]
  cursor := by
    simp only [Line.insert, Halves.insert, cut.cursor, List.length_append]

/-- A character that is inserted ends up before the cursor. -/
theorem insertChar (cut : line.Cut halves) (c : Char) :
    (line.insertChar c).Cut (halves.insert [c]) :=
  cut.insert [c]

/-- A cursor that moves to the left takes a character to the other half, if there is one. -/
theorem left (cut : line.Cut halves) : (line.left?.getD line).Cut halves.left := by
  obtain ⟨text, cursor⟩ := cut
  obtain ⟨before, after⟩ := halves
  rcases List.eq_nil_or_concat before with rfl | ⟨front, c, rfl⟩
  · have stuck : line.left? = none := if_pos cursor
    rw [stuck]
    exact ⟨text, cursor⟩
  · have moved : line.left? = some { line with cursor := front.length } := by
      simp [left?, cursor]
    rw [moved]
    constructor
    · simp [Halves.left, text]
    · simp [Halves.left]

/-- A cursor that moves to the right takes a character to the other half, if there is one. -/
theorem right (cut : line.Cut halves) : (line.right?.getD line).Cut halves.right := by
  have length := cut.length_eq
  obtain ⟨text, cursor⟩ := cut
  obtain ⟨before, after⟩ := halves
  cases after with
  | nil =>
    have stuck : line.right? = none := if_pos (by simpa [cursor] using length.symm)
    rw [stuck]
    exact ⟨text, cursor⟩
  | cons c rest =>
    have moved : line.right? = some { line with cursor := before.length + 1 } := by
      simp [right?, cursor, length]
    rw [moved]
    constructor
    · simp [Halves.right, text]
    · simp [Halves.right]

/-- The backspace key takes the last character before the cursor, if there is one. -/
theorem backspace (cut : line.Cut halves) :
    (line.backspace?.getD line).Cut halves.backspace := by
  obtain ⟨text, cursor⟩ := cut
  obtain ⟨before, after⟩ := halves
  rcases List.eq_nil_or_concat before with rfl | ⟨front, c, rfl⟩
  · have stuck : line.backspace? = none := if_pos cursor
    rw [stuck]
    exact ⟨text, cursor⟩
  · have erased : line.text.eraseIdx front.length = front ++ after := by
      rw [text, List.eraseIdx_eq_take_drop_succ]
      simp
    have shorter : line.backspace? =
        some { line with text := front ++ after, cursor := front.length } := by
      simp [backspace?, cursor, erased]
    rw [shorter]
    constructor
    · simp [Halves.backspace]
    · simp [Halves.backspace]

/-- The delete key takes the first character after the cursor, if there is one. -/
theorem delete (cut : line.Cut halves) : (line.delete?.getD line).Cut halves.delete := by
  have length := cut.length_eq
  obtain ⟨text, cursor⟩ := cut
  obtain ⟨before, after⟩ := halves
  cases after with
  | nil =>
    have stuck : line.delete? = none := if_pos (by simpa [cursor] using length.symm)
    rw [stuck]
    exact ⟨text, cursor⟩
  | cons c rest =>
    have erased : line.text.eraseIdx before.length = before ++ rest := by
      rw [text, List.eraseIdx_eq_take_drop_succ]
      simp
    have shorter : line.delete? = some { line with text := before ++ rest } := by
      simp [delete?, cursor, length, erased]
    rw [shorter]
    exact ⟨rfl, cursor⟩

end Cut

end Line

end PromptLine
