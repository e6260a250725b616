import PromptLine.Key
import PromptLine.Text.Quoted

/-!
# Keys in diagnostic text

How a key is described in the log: its character quoted, the name of its code, and the names of its
modifiers with bars between them.
-/

namespace PromptLine

/-- How a media key is called. -/
def MediaKey.name : MediaKey → String
  | .play => "Play"
  | .pause => "Pause"
  | .playPause => "PlayPause"
  | .reverse => "Reverse"
  | .stop => "Stop"
  | .fastForward => "FastForward"
  | .rewind => "Rewind"
  | .trackNext => "TrackNext"
  | .trackPrevious => "TrackPrevious"
  | .record => "Record"
  | .lowerVolume => "LowerVolume"
  | .raiseVolume => "RaiseVolume"
  | .muteVolume => "MuteVolume"

/-- The media keys. -/
def MediaKey.all : List MediaKey :=
  [.play, .pause, .playPause, .reverse, .stop, .fastForward, .rewind, .trackNext, .trackPrevious,
    .record, .lowerVolume, .raiseVolume, .muteVolume]

/-- No media key is missing from the list. -/
theorem MediaKey.mem_all (key : MediaKey) : key ∈ MediaKey.all := by
  cases key <;> decide

/-- How a modifier is called when it is pressed on its own. -/
def ModifierKey.name : ModifierKey → String
  | .leftShift => "LeftShift"
  | .leftControl => "LeftControl"
  | .leftAlt => "LeftAlt"
  | .leftSuper => "LeftSuper"
  | .leftHyper => "LeftHyper"
  | .leftMeta => "LeftMeta"
  | .rightShift => "RightShift"
  | .rightControl => "RightControl"
  | .rightAlt => "RightAlt"
  | .rightSuper => "RightSuper"
  | .rightHyper => "RightHyper"
  | .rightMeta => "RightMeta"
  | .isoLevel3Shift => "IsoLevel3Shift"
  | .isoLevel5Shift => "IsoLevel5Shift"

/-- The modifiers that can be pressed on their own. -/
def ModifierKey.all : List ModifierKey :=
  [.leftShift, .leftControl, .leftAlt, .leftSuper, .leftHyper, .leftMeta, .rightShift,
    .rightControl, .rightAlt, .rightSuper, .rightHyper, .rightMeta, .isoLevel3Shift,
    .isoLevel5Shift]

/-- No modifier is missing from the list. -/
theorem ModifierKey.mem_all (key : ModifierKey) : key ∈ ModifierKey.all := by
  cases key <;> decide

namespace KeyCode

/-- The keys that have a name and nothing else. -/
def named : List (KeyCode × String) :=
  [(.backspace, "Backspace"), (.enter, "Enter"), (.left, "Left"), (.right, "Right"), (.up, "Up"),
    (.down, "Down"), (.home, "Home"), (.toEnd, "End"), (.pageUp, "PageUp"),
    (.pageDown, "PageDown"), (.tab, "Tab"), (.backTab, "BackTab"), (.delete, "Delete"),
    (.insert, "Insert"), (.null, "Null"), (.escape, "Esc"), (.capsLock, "CapsLock"),
    (.scrollLock, "ScrollLock"), (.numLock, "NumLock"), (.printScreen, "PrintScreen"),
    (.pause, "Pause"), (.menu, "Menu"), (.keypadBegin, "KeypadBegin")]

/-- The name of a key that has one and nothing else. -/
def name (code : KeyCode) : String :=
  ((named.find? fun entry => entry.1 == code).map (·.2)).getD ""

/-- The key of a name. Keys that carry a value have none. -/
def ofName? (name : String) : Option KeyCode :=
  (named.find? fun entry => entry.2 == name).map (·.1)

/-- How a key is written, with the value that it carries. -/
def description : KeyCode → String
  | .char c => "Char(" ++ Text.quoted c ++ ")"
  | .function number => "F(" ++ toString number ++ ")"
  | .media key => "Media(" ++ key.name ++ ")"
  | .modifier key => "Modifier(" ++ key.name ++ ")"
  | code => code.name

end KeyCode

namespace Modifiers

/-- The names of the modifiers that are held. -/
def names (modifiers : Modifiers) : List String :=
  [(modifiers.shift, "SHIFT"), (modifiers.control, "CONTROL"), (modifiers.alt, "ALT"),
    (modifiers.super, "SUPER"), (modifiers.hyper, "HYPER"), (modifiers.metaKey, "META")].filterMap
      fun (held, name) => if held then some name else Option.none

/-- The description of a set of modifiers; the empty set is written as a number. -/
def description (modifiers : Modifiers) : String :=
  match modifiers.names with
  | [] => "KeyModifiers(0x0)"
  | names => "KeyModifiers(" ++ String.intercalate " | " names ++ ")"

end Modifiers

/-- How the press of a key is written. -/
def Key.description (key : Key) : String :=
  "KeyEvent \x7b character: " ++ Text.quoted key.character ++ ", code: " ++ key.code.description ++
    ", modifiers: " ++ key.modifiers.description ++ " \x7d"

end PromptLine
