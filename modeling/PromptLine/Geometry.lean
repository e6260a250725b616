import PromptLine.Dialogue

/-!
# Where the line stands on the screen

A line is painted from the first column of its first row and wraps at the width of the terminal.
`Geometry` says where that is, gives the place of the cursor by division with remainder, and keeps
the length of the longest paint so that a shorter line can erase what is left of a longer one.

Rows and columns have 16 bits, and rows that would be further down are taken to be the last one.
-/

namespace PromptLine

/-- **Where a line stands** on the screen, and how much of it was painted before. -/
structure Geometry where
  /-- The row in which the prompt starts. -/
  firstRow : UInt16
  width : UInt16
  /-- The length of the longest paint so far. -/
  maxPrinted : Nat := 0
deriving DecidableEq, Repr

namespace Geometry

/-- Offsets are not counted beyond this one. -/
def maxOffset : Nat := UInt64.size - 1

/-- The geometry of a line that nothing has been painted of. There is none without columns. -/
def start (firstRow width : UInt16) : Except TerminalError Geometry :=
  if width = 0 then .error .zeroWidth else .ok { firstRow, width }

/-- The geometry of a line that starts where the cursor is now. -/
def capture : Talk Geometry := do
  let width ← Talk.call .width
  let firstRow ← Talk.call .cursorRow
  ExceptT.mk (.done (start firstRow width))

/-- The place of a cursor with this many characters of the text and of the prompt before it. -/
def cursorPosition (cursor promptLength : Nat) (geometry : Geometry) : Position :=
  let offset := min (cursor + promptLength) maxOffset
  { col := .ofNatClamp (offset % geometry.width.toNat)
    row := .ofNatClamp (geometry.firstRow.toNat + offset / geometry.width.toNat) }

/-- The number of spaces that erase what a paint of this length leaves of the longest one, and the
geometry after that paint. -/
def recordPaint (printed : Nat) (geometry : Geometry) : Nat × Geometry :=
  (geometry.maxPrinted - printed,
    { geometry with maxPrinted := max geometry.maxPrinted printed })

/-- The row in which a line starts whose cursor is in a given row, with an offset on a terminal of
a given width: as many rows up as the offset fills, but not above the top. -/
def firstRowOf (cursorRow : UInt16) (offset : Nat) (width : UInt16) : UInt16 :=
  .ofNatClamp (cursorRow.toNat - (UInt16.ofNatClamp (offset / width.toNat)).toNat)

/-- The geometry after a change of width, if there was one. The line is then taken to start where
the offset of its cursor and the row that the terminal says the cursor is in put it. -/
def refreshed (offset : Nat) (geometry : Geometry) : Talk (Option Geometry) := do
  let width ← Talk.call .width
  if width = geometry.width then
    pure none
  else if width = 0 then
    throw .zeroWidth
  else
    let cursorRow ← Talk.call .cursorRow
    let firstRow := firstRowOf cursorRow offset width
    Talk.note (.resized geometry.width width geometry.firstRow firstRow)
    pure (some { geometry with width, firstRow })

end Geometry

end PromptLine
