import PromptLine.Log.Layer
import PromptLine.Log.Record

/-!
# Backends of a log

A log is set up with a backend, which opens the file of the log, writes the records, and brings the
events to the layers. The backend that comes with the library brings an event to all layers if all
of them admit it: a filter admits what its threshold lets pass, and other layers admit everything. A
layer that writes takes the events that its own threshold lets pass, and writes one record for each
at the end of what is there.
-/

namespace PromptLine.Log

/-- **What logs are made with.** -/
structure Backend where
  /-- The file of a name opened for more text, in the folder that has some text and that some parts
  lead to. There is no place if it cannot be opened. -/
  openIn : String → List File.Part → String → File.Tree → Option File.Place × File.Tree
  /-- The record of an event. -/
  record : Style → Event → String
  /-- What becomes of the outlet when an event comes to a log of some layers. -/
  dispatch : List Layer → Event → Outlet → Outlet

namespace Layer

/-- Whether an event may come to the layers of a log as far as one of them is concerned. -/
def admits (event : Event) : Layer → Bool
  | .filter threshold => event.passes threshold
  | .display _ _ | .file _ _ => true

/-- What becomes of the outlet when an event comes to a layer. -/
def take (event : Event) (outlet : Outlet) : Layer → Outlet
  | .filter _ => outlet
  | .display shown threshold =>
    if event.passes threshold then outlet.showOn shown (Log.record .colored event) else outlet
  | .file place threshold =>
    if event.passes threshold then
      { outlet with files := outlet.files.append (Log.record .plain event) place }
    else outlet

end Layer

namespace Backend

/-- The log of some layers. -/
def logOf (backend : Backend) (layers : List Layer) : Open where
  layers := layers
  take := backend.dispatch layers

/-- **The backend that comes with the library.** -/
def standard : Backend where
  openIn := fun text folder name tree => tree.openIn text folder name
  record := Log.record
  dispatch := fun layers event outlet =>
    if layers.all (Layer.admits event) then layers.foldl (Layer.take event) outlet else outlet

end Backend

end PromptLine.Log
