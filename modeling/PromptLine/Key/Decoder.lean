import PromptLine.Key
import PromptLine.Text.Number

/-!
# Keys from what a terminal sends

A terminal sends a key as a character in UTF-8 or as a sequence that starts with the escape
character. The decoder takes the bytes one by one and says when they make up a signal: a key that
was pressed, the place of the cursor that was asked for, or something else that happened. What
cannot be read is dropped, and reading starts again at the next byte.
-/

namespace PromptLine

/-- What some bytes of a terminal mean. -/
inductive Signal where
  | key (code : KeyCode) (modifiers : Modifiers)
  /-- The cursor is in this row and column, both counted from zero. -/
  | cursorAt (row col : UInt16)
  /-- Something happened that types nothing: a key was repeated or released, a text was pasted, the
  mouse was used, the window was entered or left. -/
  | other
deriving DecidableEq, Repr

namespace Signal

/-- A key pressed on its own. -/
def ofCode (code : KeyCode) : Signal := .key code .none

/-- A key as it is with the alt key held. Other signals stay as they are. -/
def withAlt : Signal → Signal
  | .key code modifiers => .key code { modifiers with alt := true }
  | signal => signal

/-- The key that a character outside of any sequence stands for. Among the control characters,
those of the letters and of the digits from 4 to 7 are typed with the control key; a capital letter
from A to Z is typed with the shift key. -/
def ofChar (c : Char) : Signal :=
  let n := c.toNat
  if c = '\r' then ofCode .enter
  else if c = '\t' then ofCode .tab
  else if n = 0x7F then ofCode .backspace
  else if n = 0 then .key (.char ' ') .controlOnly
  else if n ≤ 0x1A then .key (.char (Char.ofNat (n + 0x60))) .controlOnly
  else if 0x1C ≤ n ∧ n ≤ 0x1F then .key (.char (Char.ofNat (n + 0x18))) .controlOnly
  else .key (.char c) { shift := c.isUpper }

end Signal

namespace Decoder

/-- Modifiers from their number in a sequence, which is one more than the sum of their weights. -/
def modifiersOfNumber (number : Nat) : Modifiers :=
  let weights := number - 1
  { shift := weights.testBit 0
    alt := weights.testBit 1
    control := weights.testBit 2
    super := weights.testBit 3
    hyper := weights.testBit 4
    metaKey := weights.testBit 5 }

/-- The key of a letter at the end of a sequence. -/
def codeOfLetter? : Char → Option KeyCode
  | 'A' => some .up
  | 'B' => some .down
  | 'C' => some .right
  | 'D' => some .left
  | 'F' => some .toEnd
  | 'H' => some .home
  | 'P' => some (.function 1)
  | 'Q' => some (.function 2)
  | 'R' => some (.function 3)
  | 'S' => some (.function 4)
  | _ => none

/-- The key of a number before a tilde. -/
def codeOfNumber? (number : Nat) : Option KeyCode :=
  if number = 1 ∨ number = 7 then some .home
  else if number = 2 then some .insert
  else if number = 3 then some .delete
  else if number = 4 ∨ number = 8 then some .toEnd
  else if number = 5 then some .pageUp
  else if number = 6 then some .pageDown
  else if 11 ≤ number ∧ number ≤ 15 then some (.function (number - 10))
  else if 17 ≤ number ∧ number ≤ 21 then some (.function (number - 11))
  else if 23 ≤ number ∧ number ≤ 26 then some (.function (number - 12))
  else if 28 ≤ number ∧ number ≤ 29 then some (.function (number - 15))
  else if 31 ≤ number ∧ number ≤ 34 then some (.function (number - 17))
  else none

/-- The keys that have code points from 57358 on set aside for them. -/
def codeOfPrivatePoint? (point : Nat) : Option KeyCode :=
  if 57376 ≤ point ∧ point ≤ 57398 then some (.function (point - 57363))
  else if 57399 ≤ point ∧ point ≤ 57408 then some (.char (Char.ofNat (point - 57399 + 48)))
  else
    let system : List KeyCode :=
      [.capsLock, .scrollLock, .numLock, .printScreen, .pause, .menu]
    let keypad : List KeyCode :=
      [.char '.', .char '/', .char '*', .char '-', .char '+', .enter, .char '=', .char ',', .left,
        .right, .up, .down, .pageUp, .pageDown, .home, .toEnd, .insert, .delete, .keypadBegin,
        .media .play, .media .pause, .media .playPause, .media .reverse, .media .stop,
        .media .fastForward, .media .rewind, .media .trackNext, .media .trackPrevious,
        .media .record, .media .lowerVolume, .media .raiseVolume, .media .muteVolume,
        .modifier .leftShift, .modifier .leftControl, .modifier .leftAlt, .modifier .leftSuper,
        .modifier .leftHyper, .modifier .leftMeta, .modifier .rightShift,
        .modifier .rightControl, .modifier .rightAlt, .modifier .rightSuper,
        .modifier .rightHyper, .modifier .rightMeta, .modifier .isoLevel3Shift,
        .modifier .isoLevel5Shift]
    if point < 57358 then none
    else if point < 57364 then system[point - 57358]?
    else if 57409 ≤ point then keypad[point - 57409]?
    else none

/-- The character of a code point, if there is one. -/
def charOfPoint? (point : Nat) : Option Char :=
  if point.isValidChar then some (Char.ofNat point) else none

/-- The key of a code point, with the modifiers held. -/
def codeOfPoint? (modifiers : Modifiers) (point : Nat) : Option KeyCode :=
  (codeOfPrivatePoint? point).or <| (charOfPoint? point).map fun c =>
    if c = '\x1b' then .escape
    else if c = '\r' then .enter
    else if c = '\t' then (if modifiers.shift then .backTab else .tab)
    else if c = '\x7f' then .backspace
    else .char c

/-- A modifier that is pressed on its own counts as held. -/
def holding (code : KeyCode) (modifiers : Modifiers) : Modifiers :=
  match code with
  | .modifier .leftShift | .modifier .rightShift => { modifiers with shift := true }
  | .modifier .leftControl | .modifier .rightControl => { modifiers with control := true }
  | .modifier .leftAlt | .modifier .rightAlt => { modifiers with alt := true }
  | .modifier .leftSuper | .modifier .rightSuper => { modifiers with super := true }
  | .modifier .leftHyper | .modifier .rightHyper => { modifiers with hyper := true }
  | .modifier .leftMeta | .modifier .rightMeta => { modifiers with metaKey := true }
  | _ => modifiers

/-- The pieces of a text between separators. -/
def fields (separator : Char) : List Char → List (List Char)
  | [] => [[]]
  | c :: rest =>
    match fields separator rest with
    | [] => [[c]]
    | first :: others =>
      if c = separator then [] :: first :: others else (c :: first) :: others

/-- What a sequence says about the modifiers held and about the event: 1 stands for a key pressed,
2 for one repeated and 3 for one released. -/
def held? (field? : Option (List Char)) : Option (Modifiers × Nat) := do
  let parts := fields ':' (← field?)
  let number ← Text.number? 256 (← parts[0]?)
  let kind := (parts[1]?).bind (Text.number? 256)
  pure (modifiersOfNumber number, kind.getD 1)

/-- The signal of a key that was pressed, repeated or released. -/
def keySignal (kind : Nat) (code : KeyCode) (modifiers : Modifiers) : Signal :=
  if kind = 2 ∨ kind = 3 then .other else .key code modifiers

/-- The signal of a sequence with numbers that ends with a tilde. -/
def tildeSignal? (parameters : List Char) : Option Signal := do
  let parts := fields ';' parameters
  let code ← codeOfNumber? (← Text.number? 256 (← parts[0]?))
  let (modifiers, kind) := (held? parts[1]?).getD (.none, 1)
  pure (keySignal kind code modifiers)

/-- The signal of a sequence that gives the key by its code point. With the shift key held, a second
code point gives the character that it makes of the key. -/
def pointSignal? (parameters : List Char) : Option Signal := do
  let parts := fields ';' parameters
  let points := fields ':' (← parts[0]?)
  let point ← Text.number? UInt32.size (← points[0]?)
  let (modifiers, kind) := (held? parts[1]?).getD (.none, 1)
  let code ← codeOfPoint? modifiers point
  let modifiers := holding code modifiers
  let shifted := ((points[1]?).bind (Text.number? UInt32.size)).bind charOfPoint?
  match modifiers.shift, shifted with
  | true, some c => pure (keySignal kind (.char c) { modifiers with shift := false })
  | _, _ => pure (keySignal kind code modifiers)

/-- The signal of a sequence that ends with the letter of a key. A sequence without modifiers in
the usual place has them in its last digit. -/
def letterSignal? (parameters : List Char) (letter : Char) : Option Signal := do
  let parts := fields ';' parameters
  let (modifiers, kind) ←
    match held? parts[1]? with
    | some held => some held
    | none => do
      let digit ← Text.digit? (← parameters.getLast?)
      some (modifiersOfNumber digit, 1)
  pure (keySignal kind (← codeOfLetter? letter) modifiers)

/-- A row or a column. Terminals count them from one. -/
def coordinate? (field? : Option (List Char)) : Option UInt16 := do
  pure (UInt16.ofNat (← Text.number? UInt16.size (← field?)) - 1)

/-- The place of the cursor, as a terminal gives it. -/
def cursorSignal? (parameters : List Char) : Option Signal := do
  let parts := fields ';' parameters
  pure (.cursorAt (← coordinate? parts[0]?) (← coordinate? parts[1]?))

/-- Whether a number says what happened to the mouse: which of its buttons it is about, the wheel
counting as four more, and whether the mouse moved meanwhile. -/
def isMouseAction (number : Nat) : Bool :=
  let button := number % 4 + 4 * (number / 64 % 4)
  button < (if number.testBit 5 then 6 else 8)

/-- A use of the mouse: what happened, counted from a number on, and the row and the column. -/
def mouseSignal? (least : Nat) (parameters : List Char) : Option Signal := do
  let parts := fields ';' parameters
  let number ← Text.number? 256 (← parts[0]?)
  let _ ← coordinate? parts[1]?
  let _ ← coordinate? parts[2]?
  if least ≤ number ∧ isMouseAction (number - least) then pure .other else none

/-- The signal of a sequence with parameters, by the character that ends it. -/
def numberedSignal? (parameters : List Char) (last : Char) : Option Signal :=
  match last with
  | 'M' => mouseSignal? 32 parameters
  | '~' => tildeSignal? parameters
  | 'u' => pointSignal? parameters
  | 'R' => cursorSignal? parameters
  | _ => letterSignal? parameters last

/-- The signal of a letter right after the start of a sequence. -/
def shortSignal? : Char → Option Signal
  | 'Z' => some (.key .backTab { shift := true })
  | 'I' | 'O' => some .other
  | 'R' => none
  | letter => (codeOfLetter? letter).map Signal.ofCode

/-- The signal of a letter that follows the escape character and the letter O. -/
def applicationSignal? (letter : Char) : Option Signal :=
  (codeOfLetter? letter).map Signal.ofCode

/-- The text that bytes encode, if they encode one. -/
def text? (bytes : List UInt8) : Option (List Char) :=
  (String.fromUTF8? ⟨bytes.toArray⟩).map String.toList

/-- The number of bytes in the encoding of a character, by the first of them. -/
def encodedLength? (first : UInt8) : Option Nat :=
  if first < 0x80 then some 1
  else if first < 0xC0 then none
  else if first < 0xE0 then some 2
  else if first < 0xF0 then some 3
  else if first < 0xF8 then some 4
  else none

/-- Whether a byte can only follow others in the encoding of a character. -/
def isContinuation (byte : UInt8) : Bool := 0x80 ≤ byte && byte < 0xC0

/-- Whether a byte ends a sequence with parameters. -/
def isFinal (byte : UInt8) : Bool := 0x40 ≤ byte && byte ≤ 0x7E

/-- What a terminal sends at the end of a text that was pasted. -/
def pasteEnd : List UInt8 := "\x1b[201~".toUTF8.toList

/-- What has been taken in of something that is not complete. -/
inductive State where
  | idle
  /-- These bytes of the encoding of a character, which is typed with or without the alt key. -/
  | character (alt : Bool) (taken : List UInt8)
  | escape
  | application
  /-- The escape character, the bracket that starts a sequence, and these bytes. -/
  | sequence (taken : List UInt8)
  /-- A pasted text, of which these are the last bytes. -/
  | pasting (latest : List UInt8)
deriving DecidableEq, Repr

/-- A character that was typed, with the alt key held or without. -/
def typedSignal (alt : Bool) (c : Char) : Signal :=
  if alt then (Signal.ofChar c).withAlt else Signal.ofChar c

/-- One more byte of a character of several bytes. A byte that does not fit drops what was taken in.
-/
def continueCharacter (alt : Bool) (taken : List UInt8) (byte : UInt8) : State × Option Signal :=
  let bytes := taken ++ [byte]
  match text? bytes with
  | some (c :: _) => (.idle, some (typedSignal alt c))
  | _ =>
    let fits := taken.isEmpty || isContinuation byte
    match bytes.head?.bind encodedLength? with
    | some length =>
      if fits ∧ bytes.length < length then (.character alt bytes, none) else (.idle, none)
    | none => (.idle, none)

/-- The signal of a use of the mouse that is given in three bytes. -/
def mouseByteSignal? (action : UInt8) : Option Signal :=
  if 32 ≤ action ∧ isMouseAction (action.toNat - 32) then some .other else none

/-- One more byte of a sequence that started with an escape and a bracket. -/
def continueSequence (taken : List UInt8) (byte : UInt8) : State × Option Signal :=
  let c := Char.ofUInt8 byte
  let more : State × Option Signal := (.sequence (taken ++ [byte]), none)
  match taken with
  | [] =>
    if c.isDigit ∨ c = '[' ∨ c = '<' ∨ c = '?' ∨ c = 'M' then more else (.idle, shortSignal? c)
  | first :: inner =>
    match Char.ofUInt8 first with
    | '[' =>
      let number := c.toNat - 'A'.toNat
      (.idle, if 'A' ≤ c ∧ c ≤ 'E' then some (.ofCode (.function (number + 1))) else none)
    | 'M' =>
      match inner with
      | [action, _] => (.idle, mouseByteSignal? action)
      | _ => more
    | '<' =>
      if c = 'm' ∨ c = 'M' then (.idle, (text? inner).bind (mouseSignal? 0)) else more
    | '?' =>
      if c = 'c' ∨ c = 'u' ∧ !inner.isEmpty then (.idle, none) else more
    | _ =>
      if !isFinal byte then more
      else if c = '~' ∧ text? taken = some ['2', '0', '0'] then (.pasting [], none)
      else (.idle, (text? taken).bind fun parameters => numberedSignal? parameters c)

/-- A byte that starts something new, typed with or without the alt key. -/
def start (alt : Bool) (byte : UInt8) : State × Option Signal :=
  if byte < 0x80 then (.idle, some (typedSignal alt (Char.ofUInt8 byte)))
  else continueCharacter alt [] byte

/-- **Take in one byte.** It completes a signal, is kept for later or is dropped. -/
def take (state : State) (byte : UInt8) : State × Option Signal :=
  let c := Char.ofUInt8 byte
  match state with
  | .idle => if c = '\x1b' then (.escape, none) else start false byte
  | .character alt taken => continueCharacter alt taken byte
  | .escape =>
    if c = '\x1b' then (.idle, some (.ofCode .escape))
    else if c = 'O' then (.application, none)
    else if c = '[' then (.sequence [], none)
    else start true byte
  | .application => (.idle, applicationSignal? c)
  | .sequence taken => continueSequence taken byte
  | .pasting latest =>
    let latest := (latest ++ [byte]).drop (latest.length + 1 - pasteEnd.length)
    if latest = pasteEnd then (.idle, some .other) else (.pasting latest, none)

/-- What is left when no more bytes are at hand: the escape character alone is a key. -/
def pause : State → State × Option Signal
  | .escape => (.idle, some (.ofCode .escape))
  | state => (state, none)

/-- Some more bytes: the signals that they make up. -/
def takeAll (state : State) : List UInt8 → State × List Signal
  | [] => (state, [])
  | byte :: rest =>
    let (next, signal?) := take state byte
    let (last, signals) := takeAll next rest
    (last, signal?.toList ++ signals)

/-- How many bytes are read from a terminal at once. -/
def readSize : Nat := 1024

/-- Bytes that arrive together: the signals that they make up. They are read in portions, and after
a portion of the full size more bytes are expected, so the last one alone may show that no more are
at hand. -/
def takeArrived (state : State) (bytes : List UInt8) : State × List Signal :=
  let (taken, signals) := takeAll state bytes
  if bytes.length % readSize = 0 then (taken, signals)
  else
    let (paused, last?) := pause taken
    (paused, signals ++ last?.toList)

end Decoder

end PromptLine
