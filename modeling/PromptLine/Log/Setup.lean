import PromptLine.Log.Backend

/-!
# Setting up a log

A log goes to a display, to a file, to both, or nowhere, and takes the events that pass a
threshold. Setting it up opens the file, for which the folders on its path are made. One log at
most is in force for the whole program.
-/

namespace PromptLine.Log

/-- Where a log goes. -/
inductive Writer where
  | none
  | display (display : Display)
  | file (path : String)
  | displayAndFile (display : Display) (path : String)
deriving DecidableEq, Repr

namespace Writer

/-- The display that is written to, if there is one. -/
def display? : Writer → Option Display
  | .display shown | .displayAndFile shown _ => some shown
  | .none | .file _ => Option.none

/-- The path of the file that is written to, if there is one. -/
def path? : Writer → Option String
  | .file path | .displayAndFile _ path => some path
  | .none | .display _ => Option.none

end Writer

/-- What is asked of a log. Without being asked for anything it goes nowhere. -/
structure Config where
  writer : Writer := .none
  threshold : Threshold := .off
deriving DecidableEq, Repr

namespace Config

/-- The threshold of a log that is asked for without saying more. -/
def usualThreshold : Threshold := ⟨some .debug⟩

/-- The file of a log that is asked for without naming one. -/
def defaultPath : String := "line_editor_log.txt"

/-- A log that goes to a file, or to the usual one. -/
def toFile (path? : Option String) : Config where
  writer := .file (path?.getD defaultPath)
  threshold := usualThreshold

/-- A log that goes to a display. -/
def toDisplay (display : Display) : Config where
  writer := .display display
  threshold := usualThreshold

/-- A log that goes to a display and to a file. -/
def toBoth (display : Display) (path : String) : Config where
  writer := .displayAndFile display path
  threshold := usualThreshold

end Config

/-- Why a log cannot be set up. -/
inductive SetupError where
  | noFolder (path : String)
  | noFileName (path : String)
  /-- The file cannot be opened. This is not reported but ends the program. -/
  | cannotOpen (path : String)
  | alreadyInstalled
deriving DecidableEq, Repr

namespace SetupError

/-- What is said about an error that is reported. -/
def message? : SetupError → Option String
  | .noFolder path => some ("Can't access the folder of " ++ path ++
      ". It might not exist, or you don't have the required permissions.")
  | .noFileName path =>
    some ("Can't get a file name from " ++ path ++ ". It might be a folder.")
  | .cannotOpen _ => none
  | .alreadyInstalled => some "a global default trace dispatcher has already been set"

end SetupError

/-- Open the log file of a path with a backend. -/
def Backend.openPath (backend : Backend) (path : String) (tree : File.Tree) :
    Except SetupError File.Place × File.Tree :=
  match File.Path.fileName path with
  | .noFolder => (.error (.noFolder path), tree)
  | .noName => (.error (.noFileName path), tree)
  | .file folder name =>
    match backend.openIn (File.Path.folderText path) folder name tree with
    | (some place, made) => (.ok place, made)
    | (none, made) => (.error (.cannotOpen path), made)

/-- Open the log file of a path. -/
def openPath (path : String) (tree : File.Tree) : Except SetupError File.Place × File.Tree :=
  Backend.standard.openPath path tree

namespace Config

/-- The layer that writes on a display, if one is asked for. -/
def displayLayer? (config : Config) : Option Layer :=
  config.writer.display?.map fun display => .display display config.threshold

/-- The layer that writes to a file, if one is asked for. The file is opened for it. -/
def fileLayer? (backend : Backend) (config : Config) (tree : File.Tree) :
    Except SetupError (Option Layer) × File.Tree :=
  match config.writer.path? with
  | none => (.ok none, tree)
  | some path =>
    match backend.openPath path tree with
    | (.ok place, made) => (.ok (some (.file place config.threshold)), made)
    | (.error error, made) => (.error error, made)

/-- **Set up a log with a backend.** There is none if it is to go nowhere. Otherwise the threshold
is looked at twice: by a layer that filters what comes to the log, and by each layer that writes. -/
def setUpWith (backend : Backend) (config : Config) (tree : File.Tree) :
    Except SetupError (Option Open) × File.Tree :=
  if config.writer = .none then (.ok none, tree)
  else
    match config.fileLayer? backend tree with
    | (.ok file?, made) =>
      let writers := config.displayLayer?.toList ++ file?.toList
      (.ok (some (backend.logOf (.filter config.threshold :: writers))), made)
    | (.error error, made) => (.error error, made)

/-- Set up a log for the whole program, in which another may be in force. -/
def installWith (backend : Backend) (config : Config) (current : Option Open)
    (tree : File.Tree) : Except SetupError (Option Open) × File.Tree :=
  match config.setUpWith backend tree with
  | (.ok (some log), made) =>
    if current.isSome then (.error .alreadyInstalled, made) else (.ok (some log), made)
  | (.ok none, made) => (.ok current, made)
  | (.error error, made) => (.error error, made)

/-- Set up a log with the backend that comes with the library. -/
def setUp (config : Config) (tree : File.Tree) : Except SetupError (Option Open) × File.Tree :=
  config.setUpWith .standard tree

/-- Set up a log for the whole program with the backend that comes with the library. -/
def install (config : Config) (current : Option Open) (tree : File.Tree) :
    Except SetupError (Option Open) × File.Tree :=
  config.installWith .standard current tree

end Config

end PromptLine.Log
