import PromptLine.Terminal.Call

/-!
# Control sequences

What is sent to a terminal to move its cursor, to set and reset the rendition of text, and to ask
for the place of the cursor, and what the terminal answers. Rows and columns are counted from one.
-/

namespace PromptLine.Ansi

/-- How a sequence that a terminal obeys starts. -/
def introducer : String := "\x1b["

/-- Lines wrap at the last column. -/
def enableWrap : String := introducer ++ "?7h"

/-- The terminal is to say where its cursor is. -/
def askCursor : String := introducer ++ "6n"

/-- What a terminal answers when its cursor is in the first column of a row. -/
def cursorReport (row : UInt16) : String :=
  introducer ++ toString (row.toNat + 1) ++ ";1R"

/-- A graphic rendition of the text that follows, by its number. -/
def rendition (code : String) : String := introducer ++ code ++ "m"

/-- The usual colour and face. -/
def resetColor : String := rendition "0"

/-- A text in graphic renditions that end with it. -/
def rendered (codes : List String) (text : String) : String :=
  String.join (codes.map rendition) ++ text ++ resetColor

/-- What takes the cursor to the start of the next row. -/
def lineBreak : String := "\x0d\n"

/-- A text as it reaches a terminal that breaks lines itself. -/
def cooked (text : String) : String :=
  String.join (text.toList.map fun c => if c = '\n' then lineBreak else c.toString)

/-- Ask for the cursor to be moved. A terminal counts rows and columns from one. -/
def move (position : Position) : String :=
  introducer ++ toString (position.row.toNat + 1) ++ ";" ++ toString (position.col.toNat + 1) ++
    "H"

/-- The entry of the palette for a colour that has one. -/
def paletteIndex? : Color → Option Nat
  | .black => some 0
  | .darkRed => some 1
  | .darkGreen => some 2
  | .darkYellow => some 3
  | .darkBlue => some 4
  | .darkMagenta => some 5
  | .darkCyan => some 6
  | .grey => some 7
  | .darkGrey => some 8
  | .red => some 9
  | .green => some 10
  | .yellow => some 11
  | .blue => some 12
  | .magenta => some 13
  | .cyan => some 14
  | .white => some 15
  | .ansi entry => some entry.toNat
  | .reset | .rgb .. => none

/-- Ask for text in a colour. -/
def foreground (color : Color) : String :=
  match color with
  | .reset => rendition "39"
  | .rgb red green blue =>
    rendition ("38;2;" ++ toString red ++ ";" ++ toString green ++ ";" ++ toString blue)
  | _ => rendition ("38;5;" ++ toString ((paletteIndex? color).getD 0))

/-- What is sent for a call that writes to the screen. -/
def sent : Call → String
  | .write text => text
  | .writeLine text => text ++ lineBreak
  | .move position => move position
  | .foreground color => foreground color
  | .resetColor => resetColor
  | .cursorRow => askCursor
  | .readKey _ | .width | .flush => ""

end PromptLine.Ansi
