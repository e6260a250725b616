import PromptLine.File.Path

/-!
# Trees of files

The folders and files that a program may come to, and the folder that it works in. The entries are
kept as a list: each is at a place, and is a folder or a file with text. The working folder and the
folders that lead to it are always there. Of what is outside the working folder no more is known
than the program made.
-/

namespace PromptLine.File

/-- A folder, or a file with its text. -/
inductive Node where
  | folder
  | file (text : String)
deriving DecidableEq, Repr

/-- A place, by the names that lead there from the root. -/
abbrev Place := List String

/-- A working folder, and the entries in it and elsewhere. The place of an entry is unique to it. -/
structure Tree where
  workingFolder : Place
  entries : List (Place × Node) := []
deriving DecidableEq, Repr

namespace Tree

/-- The tree with nothing in it but a working folder. -/
def empty : Tree where
  workingFolder := ["working folder"]

/-- What stands at a place. The working folder and those above it are always there. -/
def node? (place : Place) (tree : Tree) : Option Node :=
  if place.isPrefixOf tree.workingFolder then some .folder else tree.entries.lookup place

/-- The text of the file at a place, if there is one. -/
def text? (place : Place) (tree : Tree) : Option String :=
  match tree.node? place with
  | some (.file text) => some text
  | _ => none

/-- The tree with an entry put in, in place of one that may have been there. -/
def put (place : Place) (node : Node) (tree : Tree) : Tree :=
  { tree with
    entries := tree.entries.filter (fun entry => entry.1 != place) ++ [(place, node)] }

/-- Whether a name is short enough for an entry. -/
def allowsName (name : String) : Bool := name.utf8ByteSize ≤ 255

/-- The folder that one step leads to, which is made if it is missing. There is none where a file
is in the way or a name is not allowed. Above the root is the root. -/
def enter (tree : Tree) (place : Place) : Part → Option (Place × Tree)
  | .root => some ([], tree)
  | .current => some (place, tree)
  | .parent => some (place.dropLast, tree)
  | .entry name =>
    let inner := place ++ [name]
    match tree.node? inner with
    | some .folder => some (inner, tree)
    | some (.file _) => none
    | none => if allowsName name then some (inner, tree.put inner .folder) else none

/-- The folder that the parts of a path lead to from a place. Missing ones are made on the way, as
far as there is one; there is no place if the way is blocked. -/
def makeFolders (tree : Tree) (place : Place) : List Part → Option Place × Tree
  | [] => (some place, tree)
  | part :: rest =>
    match tree.enter place part with
    | some (next, made) => makeFolders made next rest
    | none => (none, tree)

/-- The file of a name in a folder, opened for more text. It is made if it is missing. There is no
place if a folder has its name. -/
def openFile (name : String) (tree : Tree) (folder : Place) : Option Place × Tree :=
  let place := folder ++ [name]
  match tree.node? place with
  | some .folder => (none, tree)
  | some (.file _) => (some place, tree)
  | none =>
    if allowsName name then (some place, tree.put place (.file "")) else (none, tree)

/-- The file of a name opened for more text, in the folder that has some text and that some parts
lead to. The folder is made if it is missing. A path that cannot be used is not gone along, so when
only the file has such a path its folder is there all the same. -/
def openIn (text : String) (folder : List Part) (name : String) (tree : Tree) :
    Option Place × Tree :=
  if !Path.isUsable text then (none, tree)
  else
    match tree.makeFolders tree.workingFolder folder with
    | (some place, made) =>
      if Path.isUsable (Path.within text name) then made.openFile name place else (none, made)
    | (none, made) => (none, made)

/-- The tree with more text at the end of a file. -/
def append (text : String) (tree : Tree) (place : Place) : Tree :=
  match tree.text? place with
  | some old => tree.put place (.file (old ++ text))
  | none => tree

/-- The tree with one more folder in it. -/
def withFolder (path : String) (tree : Tree) : Tree :=
  (tree.makeFolders tree.workingFolder (Path.parts path)).2

/-- The tree with a text in one of its files, which is made if it is missing. -/
def withFile (path text : String) (tree : Tree) : Tree :=
  match Path.fileName path with
  | .file folder name =>
    match tree.openIn (Path.folderText path) folder name with
    | (some place, made) => made.put place (.file text)
    | (none, made) => made
  | _ => tree

/-- The rank of a path: a slash goes before every character of a name. -/
def rank (path : String) : String := path.map fun c => if c = '/' then '\x00' else c

/-- Everything in the working folder, a folder before what is in it and otherwise by name: the path
of each entry, with a slash at the end if it is a folder, and the text of a file. -/
def listing (tree : Tree) : List (String × Option String) :=
  let inside := tree.entries.filter fun entry => tree.workingFolder.isPrefixOf entry.1
  let paths := inside.map fun (place, node) =>
    (String.intercalate "/" (place.drop tree.workingFolder.length), node)
  let ordered := paths.mergeSort fun a b => rank a.1 ≤ rank b.1
  ordered.map fun (path, node) =>
    match node with
    | .folder => (path ++ "/", none)
    | .file text => (path, some text)

end Tree

end PromptLine.File
