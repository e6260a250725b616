/-!
# The history of entered lines

Entered lines from the oldest to the newest, a capacity, and a place among them while the user is
browsing. Adjacent duplicates are kept once, and the oldest entry goes when the capacity is
exceeded.
-/

namespace PromptLine

/-- The lines entered so far. -/
structure History where
  capacity : Nat
  /-- The entries, the oldest first. -/
  entries : List String := []
  /-- The index of the entry that is being looked at, or `none` when nobody is browsing. -/
  browsing : Option Nat := none
deriving DecidableEq, Repr

namespace History

/-- The number of entries that are kept unless another one is asked for. -/
def defaultCapacity : Nat := 50

/-- A history without entries that keeps so many. -/
def empty (capacity : Nat) : History where
  capacity := capacity

/-- The number of entries. -/
def length (history : History) : Nat := history.entries.length

/-- Whether there are no entries. -/
def isEmpty (history : History) : Bool := history.entries.isEmpty

/-- The entries with a text as the newest: it is added unless it is the newest already. -/
def entriesWith (text : String) (history : History) : List String :=
  if history.entries.getLast? = some text then history.entries else history.entries ++ [text]

/-- Browsing goes on after a text is added only if the entry being looked at is that text. -/
def browsingAfter (text : String) (history : History) : Option Nat :=
  history.browsing.filter fun index => (history.entriesWith text)[index]? == some text

/-- The entry that has to go when a text is added: the oldest, if they are too many. -/
def evictedBy? (text : String) (history : History) : Option String :=
  if history.capacity < (history.entriesWith text).length then (history.entriesWith text).head?
  else none

/-- The history after a text is entered. When the oldest entry goes, the others move down by one
and the place of browsing moves with them, but not below the oldest. -/
def add (text : String) (history : History) : History :=
  let entries := history.entriesWith text
  let browsing := history.browsingAfter text
  if history.capacity < entries.length then
    { history with entries := entries.tail, browsing := browsing.map (· - 1) }
  else
    { history with entries := entries, browsing := browsing }

/-- Back to the entry before the one being looked at, or to the newest when nobody is browsing.
At the oldest entry, and in an empty history, nothing moves and there is no entry. -/
def previous (history : History) : Option String × History :=
  if history.entries.isEmpty ∨ history.browsing = some 0 then (none, history)
  else
    let index := history.browsing.getD history.length - 1
    (history.entries[index]?, { history with browsing := some index })

/-- Forward to the entry after the one being looked at. After the newest, browsing ends and there
is no entry. -/
def next (history : History) : Option String × History :=
  match history.browsing with
  | some index =>
    if index + 1 < history.length then
      (history.entries[index + 1]?, { history with browsing := some (index + 1) })
    else (none, { history with browsing := none })
  | none => (none, history)

/-- Forget all entries. Browsing ends. -/
def clear (history : History) : History := { history with entries := [], browsing := none }

/-- The history with another capacity. If that is too small for the entries, the oldest go and
browsing ends. -/
def setCapacity (capacity : Nat) (history : History) : History :=
  if capacity < history.length then
    { capacity := capacity, entries := history.entries.drop (history.length - capacity),
      browsing := none }
  else { history with capacity := capacity }

/-- One operation on a history. -/
inductive Step where
  | add (text : String)
  | previous
  | next
  | clear
  | setCapacity (capacity : Nat)
deriving DecidableEq, Repr

/-- One step: the entry that it shows, if any, and the history after it. -/
def step (history : History) : Step → Option String × History
  | .add text => (none, history.add text)
  | .previous => history.previous
  | .next => history.next
  | .clear => (none, history.clear)
  | .setCapacity capacity => (none, history.setCapacity capacity)

/-- A history after operations, one after the other. -/
def steps (history : History) (taken : List Step) : History :=
  taken.foldl (fun current one => (current.step one).2) history

end History

end PromptLine
