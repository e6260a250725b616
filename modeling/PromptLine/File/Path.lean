/-!
# Paths

A path is a text whose parts stand between slashes. Empty parts do not count, so doubled slashes and
a slash at the end mean nothing; a single dot counts only as the first part of a path that does not
start at the root. A path that names a file splits into the folder and the name of the file. A text
can be used as a path if it is not too long and does not hold the character that ends paths.
-/

namespace PromptLine.File

/-- One part of a path: the root, the folder itself, the one above it, or an entry by its name. -/
inductive Part where
  | root
  | current
  | parent
  | entry (name : String)
deriving DecidableEq, Repr

namespace Path

/-- The pieces of a text between slashes, empty ones included. -/
def pieces : List Char → List (List Char)
  | [] => [[]]
  | c :: rest =>
    match pieces rest with
    | [] => [[c]]
    | first :: others => if c = '/' then [] :: first :: others else (c :: first) :: others

/-- The part that a piece stands for, if it counts. -/
def part? (piece : List Char) : Option Part :=
  match piece with
  | [] | ['.'] => none
  | ['.', '.'] => some .parent
  | _ => some (.entry (String.ofList piece))

/-- Whether a text starts at the root. -/
def isAbsolute (text : List Char) : Bool := text.head? == some '/'

/-- The parts of a path. Empty pieces and single points mean nothing, but for a point in front. -/
def parts (text : String) : List Part :=
  let split := pieces text.toList
  let rest := split.filterMap part?
  if isAbsolute text.toList then .root :: rest
  else if split.head? == some ['.'] then .current :: rest
  else rest

/-- How a part is written between two separators. -/
def writtenPart : Part → String
  | .root => ""
  | .current => "."
  | .parent => ".."
  | .entry name => name

/-- The shortest way to write a path of given parts. -/
def written (parts : List Part) : String :=
  if parts = [.root] then "/" else String.intercalate "/" (parts.map writtenPart)

/-- The text of the folder of the file that a path names: the path without its last part that counts
and without the pieces before that, and after it, which do not. -/
def folderText (text : String) : String :=
  let counted (reversed : List (List Char)) := reversed.dropWhile fun piece => (part? piece).isNone
  match pieces text.toList with
  | [] => ""
  | first :: others =>
    match counted others.reverse with
    | [] => ""
    | _ :: before =>
      let folder := (counted before).reverse
      if first.isEmpty && folder.isEmpty then "/"
      else String.intercalate "/" ((first :: folder).map String.ofList)

/-- The text of the path of an entry of a folder. -/
def within (folder name : String) : String :=
  if folder.isEmpty || folder == "/" then folder ++ name else folder ++ "/" ++ name

/-- The greatest number of bytes in the text of a path. -/
def sizeLimit : Nat := 4095

/-- Whether a text can be used as a path: it is not too long, and the character that ends a path
does not stand inside it. -/
def isUsable (text : String) : Bool :=
  text.utf8ByteSize ≤ sizeLimit && !text.toList.contains '\x00'

/-- What a path says about the file it names. -/
inductive FileName where
  | file (folder : List Part) (name : String)
  /-- The path names the root, or nothing. -/
  | noFolder
  /-- The path ends with a part that is not the name of an entry. -/
  | noName
deriving DecidableEq, Repr

/-- What the last part of a path says about the file that it names. -/
def fileName (text : String) : FileName :=
  let parts := parts text
  match parts.getLast? with
  | none | some .root => .noFolder
  | some .current | some .parent => .noName
  | some (.entry name) => .file parts.dropLast name

end Path

end PromptLine.File
