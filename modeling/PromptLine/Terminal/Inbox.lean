import PromptLine.Key.Decoder

/-!
# What waits to be read

A terminal sends keys, places of the cursor and other signals in one row, but they are asked for
separately. What is passed over in the search for a place waits as an event, and a place that is
passed over in the search for a key waits as a place; both are found before anything that arrived
later. Places that were passed over since the last event come before those that waited already.
-/

namespace PromptLine

/-- The signals that nobody has taken yet. -/
structure Inbox where
  /-- The signals that were not looked at, in the order in which they arrived. -/
  arrived : List Signal := []
  /-- The signals passed over in the search for a place. -/
  events : List Signal := []
  /-- The rows of the places passed over in the search for a key. -/
  places : List UInt16 := []
deriving DecidableEq, Repr

namespace Inbox

/-- Signals that arrive, after those that are there. -/
def receive (signals : List Signal) (inbox : Inbox) : Inbox :=
  { inbox with arrived := inbox.arrived ++ signals }

/-- The first key among some events, and the events after it. -/
def keyOfEvents? : List Signal → Option ((KeyCode × Modifiers) × List Signal)
  | [] => none
  | .key code modifiers :: rest => some ((code, modifiers), rest)
  | _ :: rest => keyOfEvents? rest

/-- The first key among signals that arrived, and what waits once it is taken, when some places
waited already and some were passed over since the last event. -/
def keyOfArrived? (passed waiting : List UInt16) :
    List Signal → Option ((KeyCode × Modifiers) × Inbox)
  | [] => none
  | .key code modifiers :: rest =>
    some ((code, modifiers), { arrived := rest, places := passed ++ waiting })
  | .cursorAt row _ :: rest => keyOfArrived? (passed ++ [row]) waiting rest
  | .other :: rest => keyOfArrived? [] (passed ++ waiting) rest

/-- The next key, and what waits once it is taken. There is none if no key has arrived. -/
def key? (inbox : Inbox) : Option ((KeyCode × Modifiers) × Inbox) :=
  match keyOfEvents? inbox.events with
  | some (key, events) => some (key, { inbox with events })
  | none => keyOfArrived? [] inbox.places inbox.arrived

/-- The first place among signals that arrived: its row, the signals before it and those after
it. -/
def placeOfArrived? : List Signal → Option (UInt16 × List Signal × List Signal)
  | [] => none
  | .cursorAt row _ :: rest => some (row, [], rest)
  | signal :: rest =>
    (placeOfArrived? rest).map fun (row, before, after) => (row, signal :: before, after)

/-- The row of the next place, and what waits once it is taken. There is none if no place has
arrived. -/
def place? (inbox : Inbox) : Option (UInt16 × Inbox) :=
  match inbox.places with
  | row :: places => some (row, { inbox with places })
  | [] =>
    (placeOfArrived? inbox.arrived).map fun (row, before, after) =>
      (row, { inbox with arrived := after, events := inbox.events ++ before })

end Inbox

end PromptLine
