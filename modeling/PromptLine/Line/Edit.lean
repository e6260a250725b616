import PromptLine.Line
import PromptLine.Text.Blank

/-!
# Edits of a line

The ways to change a line as data, so that a sequence of edits is a list. An edit that may have
nowhere to go answers whether it changed anything.
-/

namespace PromptLine.Line

/-- The position of the first character that is not blank; none in a blank line. -/
def firstNonBlank? (line : Line) : Option Nat :=
  line.text.findIdx? fun c => !Text.isBlank c

/-- Whether every character of the text is blank. -/
def isBlank (line : Line) : Bool := line.firstNonBlank?.isNone

/-- One operation on a line. -/
inductive Edit where
  | start (prompt : String)
  | setCursor (position : Nat)
  | toStart
  | toEnd
  | left
  | right
  | insertChar (c : Char)
  | insert (text : String)
  | backspace
  | delete
  | clear
  | replace (text : String)
  | setFinished (finished : Bool)
deriving DecidableEq, Repr

/-- The line that an optional change leaves, and whether there was one. -/
def orUnchanged (line : Line) (changed : Option Line) : Option Bool × Line :=
  (some changed.isSome, changed.getD line)

/-- One edit. The answer is `none` for an edit that always succeeds. -/
def edit (line : Line) : Edit → Option Bool × Line
  | .start prompt => (none, Line.start prompt)
  | .setCursor position => (none, line.setCursor position)
  | .toStart => (none, line.toStart)
  | .toEnd => (none, line.toEnd)
  | .left => line.orUnchanged line.left?
  | .right => line.orUnchanged line.right?
  | .insertChar c => (none, line.insertChar c)
  | .insert text => (none, line.insert text.toList)
  | .backspace => line.orUnchanged line.backspace?
  | .delete => line.orUnchanged line.delete?
  | .clear => (none, line.clear)
  | .replace text => (none, line.replace text.toList)
  | .setFinished finished => (none, { line with finished := finished })

/-- A line after operations, one after the other. -/
def edits (line : Line) (steps : List Edit) : Line :=
  steps.foldl (fun current step => (current.edit step).2) line

end PromptLine.Line
