/-!
# Keys

What a terminal says about a key that was pressed: which key it is, which modifiers were held, and
the character it stands for. A key is printable when that character is not a control character.
-/

namespace PromptLine

/-- A key that plays or records something. -/
inductive MediaKey where
  | play | pause | playPause | reverse | stop | fastForward | rewind | trackNext | trackPrevious
  | record | lowerVolume | raiseVolume | muteVolume
deriving DecidableEq, Repr

/-- A modifier pressed on its own. -/
inductive ModifierKey where
  | leftShift | leftControl | leftAlt | leftSuper | leftHyper | leftMeta
  | rightShift | rightControl | rightAlt | rightSuper | rightHyper | rightMeta
  | isoLevel3Shift | isoLevel5Shift
deriving DecidableEq, Repr

/-- Which key was pressed. -/
inductive KeyCode where
  | char (c : Char)
  | function (number : Nat)
  | media (key : MediaKey)
  | modifier (key : ModifierKey)
  | backspace | enter | left | right | up | down | home | toEnd | pageUp | pageDown
  | tab | backTab | delete | insert | null | escape | capsLock | scrollLock | numLock
  | printScreen | pause | menu | keypadBegin
deriving DecidableEq, Repr

/-- The modifiers held while a key is pressed. -/
structure Modifiers where
  shift : Bool := false
  control : Bool := false
  alt : Bool := false
  super : Bool := false
  hyper : Bool := false
  metaKey : Bool := false
deriving DecidableEq, Repr

namespace Modifiers

/-- No modifier is held. -/
def none : Modifiers := {}

/-- The control key is held, and no other. -/
def controlOnly : Modifiers := { control := true }

/-- Whether control turns a character into a control code. Together with alt it does not, since
the two are the other shift key of many keyboards. -/
def makesControlCode (modifiers : Modifiers) : Bool := modifiers.control && !modifiers.alt

end Modifiers

/-- A key as it was pressed. -/
structure Key where
  /-- The character that the key stands for, or NUL. -/
  character : Char
  code : KeyCode
  modifiers : Modifiers
deriving DecidableEq, Repr

namespace Key

/-- The control code of a character: its low five bits, if one byte holds the character. -/
def controlCode (c : Char) : Char :=
  if c.toNat < 256 then Char.ofNat (c.toNat % 32) else '\x00'

/-- The character that a key stands for when nothing else is said about it. -/
def defaultCharacter (code : KeyCode) (modifiers : Modifiers) : Char :=
  match code with
  | .char c => if modifiers.makesControlCode then controlCode c else c
  | .enter => '\r'
  | .tab | .backTab => '\t'
  | .backspace => '\x08'
  | .escape => '\x1b'
  | _ => '\x00'

/-- The press of a key with modifiers. It types what the key types by default. -/
def press (code : KeyCode) (modifiers : Modifiers) : Key where
  character := defaultCharacter code modifiers
  code := code
  modifiers := modifiers

/-- The press of a key on its own. -/
def ofCode (code : KeyCode) : Key := press code Modifiers.none

/-- The press of the key of a character on its own. -/
def ofChar (c : Char) : Key := ofCode (.char c)

/-- The characters from this one on are not control characters. -/
def firstPrintable : Char := ' '

/-- Whether the character of a key can stand in a line. -/
def isPrintable (key : Key) : Bool := firstPrintable ≤ key.character

end Key

end PromptLine
