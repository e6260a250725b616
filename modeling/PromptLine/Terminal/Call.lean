import PromptLine.Key
import PromptLine.Terminal.Color
import PromptLine.Terminal.Failure

/-!
# What is asked of a terminal

An editor needs nine things from a terminal: the next key, text written with or without a line
break, the row of the cursor and the number of columns, the cursor moved, the colour of text set
and reset, and everything written so far shown. A terminal answers each with a value of the type
that belongs to it, or fails.
-/

namespace PromptLine

/-- A place on the screen; the top left corner has column and row zero. -/
structure Position where
  col : UInt16
  row : UInt16
deriving DecidableEq, Repr, Inhabited

/-- One thing asked of a terminal. -/
inductive Call where
  /-- The next key, or nothing at the end of the input. It is shown unless it is intercepted. -/
  | readKey (intercept : Bool)
  | write (text : String)
  | writeLine (text : String)
  | cursorRow
  | width
  | move (position : Position)
  | foreground (color : Color)
  | resetColor
  | flush
deriving DecidableEq, Repr

/-- A call without what it carries. -/
inductive CallKind where
  | readKey | write | writeLine | cursorRow | width | move | foreground | resetColor | flush
deriving DecidableEq, Repr

namespace Call

/-- The answer that belongs to a call. -/
@[reducible] def Reply : Call → Type
  | .readKey _ => Option Key
  | .cursorRow => UInt16
  | .width => UInt16
  | .write _ | .writeLine _ | .move _ | .foreground _ | .resetColor | .flush => Unit

/-- The kind of a call. -/
def kind : Call → CallKind
  | .readKey _ => .readKey
  | .write _ => .write
  | .writeLine _ => .writeLine
  | .cursorRow => .cursorRow
  | .width => .width
  | .move _ => .move
  | .foreground _ => .foreground
  | .resetColor => .resetColor
  | .flush => .flush

end Call

end PromptLine
