import PromptLine.File.Tree
import PromptLine.Log.Event

/-!
# The layers of a log

A log is made of layers: some filter the events that come to it, others write to a display or to a
file. How layers work together is the matter of the backend that the log was set up with. All that a
log that is set up does is to take events.
-/

namespace PromptLine.Log

/-- A stream that is shown to the user. -/
inductive Display where
  | stdout
  | stderr
deriving DecidableEq, Repr

/-- What logs write to: the files, and what was shown on each display. -/
structure Outlet where
  files : File.Tree
  stdout : String := ""
  stderr : String := ""
deriving DecidableEq, Repr

namespace Outlet

/-- What was shown on a display. -/
def shownOn (display : Display) (outlet : Outlet) : String :=
  match display with
  | .stdout => outlet.stdout
  | .stderr => outlet.stderr

/-- The outlet after a text was shown on a display. -/
def showOn (display : Display) (text : String) (outlet : Outlet) : Outlet :=
  match display with
  | .stdout => { outlet with stdout := outlet.stdout ++ text }
  | .stderr => { outlet with stderr := outlet.stderr ++ text }

end Outlet

/-- What a log is made of. A layer that writes has a threshold of its own. -/
inductive Layer where
  /-- Nothing comes to any layer that this threshold does not let pass. -/
  | filter (threshold : Threshold)
  | display (display : Display) (threshold : Threshold)
  | file (place : File.Place) (threshold : Threshold)
deriving DecidableEq, Repr

/-- **A log that is set up**, with its files open. -/
structure Open where
  layers : List Layer
  /-- What becomes of the outlet when the log takes an event. -/
  take : Event → Outlet → Outlet

/-- The number of layers of a log. -/
def Open.layerCount (log : Open) : Nat := log.layers.length

/-- What becomes of the outlet when an event is noted. Without a log nothing does. -/
def take (log? : Option Open) (event : Event) (outlet : Outlet) : Outlet :=
  match log? with
  | some log => log.take event outlet
  | none => outlet

/-- What becomes of the outlet when events are noted one after the other. -/
def takeAll (log? : Option Open) (events : List Event) (outlet : Outlet) : Outlet :=
  events.foldl (fun reached event => take log? event reached) outlet

/-- The files after a log, if there is one, has taken some events. -/
def writeTo (log? : Option Open) (events : List Event) (tree : File.Tree) : File.Tree :=
  (takeAll log? events { files := tree }).files

/-- What a log, if there is one, shows of some events on a display. -/
def shownOn (log? : Option Open) (display : Display) (events : List Event) : String :=
  (takeAll log? events { files := .empty }).shownOn display

end PromptLine.Log
