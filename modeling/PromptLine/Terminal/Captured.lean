/-!
# Captured output

Output that is kept as bytes instead of being shown. Text goes in as UTF-8 and is read back as
text. Two writers may share what they capture until one of them is detached.
-/

namespace PromptLine

/-- Bytes that were written and can be looked at. -/
structure Captured where
  bytes : ByteArray := .empty

namespace Captured

/-- Nothing was written yet. -/
def empty : Captured := {}

/-- One more text written. -/
def write (text : String) (captured : Captured) : Captured where
  bytes := captured.bytes ++ text.toUTF8

/-- What was written, if it is a text. -/
def text? (captured : Captured) : Option String := String.fromUTF8? captured.bytes

end Captured

/-- Two writers. The second shares the buffer of the first unless it has one of its own. -/
structure WriterPair where
  shared : Captured := .empty
  own? : Option Captured := none

namespace WriterPair

/-- What the first writer of a pair shows. -/
def first (pair : WriterPair) : Captured := pair.shared

/-- What the second writer sees. -/
def second (pair : WriterPair) : Captured := pair.own?.getD pair.shared

/-- A text written through the first writer. -/
def writeFirst (text : String) (pair : WriterPair) : WriterPair :=
  { pair with shared := pair.shared.write text }

/-- A text written through the second writer, into the buffer that it has then. -/
def writeSecond (text : String) (pair : WriterPair) : WriterPair :=
  match pair.own? with
  | some own => { pair with own? := some (own.write text) }
  | none => { pair with shared := pair.shared.write text }

/-- Drop what the two writers share. -/
def clear (pair : WriterPair) : WriterPair := { pair with shared := .empty }

/-- The second writer with a new buffer of its own. -/
def detach (pair : WriterPair) : WriterPair := { pair with own? := some .empty }

end WriterPair

end PromptLine
