/-!
# Colours

The colours that text can be written in: sixteen named ones, the terminal's own default, an entry
of its palette of 256, and any mixture of red, green and blue.
-/

namespace PromptLine

/-- A colour of text. -/
inductive Color where
  | reset | black | darkGrey | red | darkRed | green | darkGreen | yellow | darkYellow | blue
  | darkBlue | magenta | darkMagenta | cyan | darkCyan | white | grey
  | rgb (red green blue : UInt8)
  | ansi (entry : UInt8)
deriving DecidableEq, Repr

namespace Color

/-- The colours that have a name. -/
def named : List (Color × String) :=
  [(.reset, "Reset"), (.black, "Black"), (.darkGrey, "DarkGrey"), (.red, "Red"),
    (.darkRed, "DarkRed"), (.green, "Green"), (.darkGreen, "DarkGreen"), (.yellow, "Yellow"),
    (.darkYellow, "DarkYellow"), (.blue, "Blue"), (.darkBlue, "DarkBlue"), (.magenta, "Magenta"),
    (.darkMagenta, "DarkMagenta"), (.cyan, "Cyan"), (.darkCyan, "DarkCyan"), (.white, "White"),
    (.grey, "Grey")]

/-- The colour of a name. -/
def ofName? (name : String) : Option Color :=
  (named.find? fun entry => entry.2 == name).map (·.1)

/-- The name of a colour, if it has one. -/
def name? (color : Color) : Option String :=
  (named.find? fun entry => entry.1 == color).map (·.2)

end Color

end PromptLine
