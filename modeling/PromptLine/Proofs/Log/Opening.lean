import PromptLine.Log.Setup
import PromptLine.Proofs.File.Folders
import PromptLine.Proofs.File.Path
import PromptLine.Proofs.Log.Backend

/-!
# What becomes of the path of a log

A path that does not name a file is reported, and a path that does is opened, whatever stands in its
way (`PromptLine.Log.openPath_classifies`). Only the shape of a path is looked at before that. If
the file cannot be opened then, this is not reported: setting up the log ends the program
(`PromptLine.Log.setUp_endsProgram`), and for each path that is let through there are trees in which
it does.
-/

namespace PromptLine.Log

open File

section Path
variable {backend : Backend} {path : String} {folder : List Part} {name : String} {tree : Tree}

/-- A path that names a file is handed on to be opened. -/
theorem openPath_of_file (named : Path.fileName path = .file folder name) :
    let handed := backend.openIn (Path.folderText path) folder name tree
    backend.openPath path tree = (handed.1.elim (.error (.cannotOpen path)) .ok, handed.2) := by
  unfold Backend.openPath
  rw [named]
  dsimp only
  generalize backend.openIn (Path.folderText path) folder name tree = handed
  obtain ⟨place? | place, made⟩ := handed
  · rfl
  · rfl

/-- All that can become of a path. -/
theorem openPath_cases (backend : Backend) (path : String) (tree : Tree) :
    (Path.fileName path = .noFolder ∧ (backend.openPath path tree).1 = .error (.noFolder path)) ∨
    (Path.fileName path = .noName ∧ (backend.openPath path tree).1 = .error (.noFileName path)) ∨
    ∃ folder name, Path.fileName path = .file folder name ∧
      let handed := backend.openIn (Path.folderText path) folder name tree
      (handed.1 = none ∧ (backend.openPath path tree).1 = .error (.cannotOpen path) ∨
        ∃ place, handed.1 = some place ∧ backend.openPath path tree = (.ok place, handed.2)) := by
  cases named : Path.fileName path with
  | noFolder =>
    refine .inl ⟨rfl, ?_⟩
    unfold Backend.openPath
    rw [named]
  | noName =>
    refine .inr (.inl ⟨rfl, ?_⟩)
    unfold Backend.openPath
    rw [named]
  | file folder name =>
    refine .inr (.inr ⟨folder, name, rfl, ?_⟩)
    rw [openPath_of_file named]
    cases opened : (backend.openIn (Path.folderText path) folder name tree).1 with
    | none => exact .inl ⟨opened, rfl⟩
    | some place => exact .inr ⟨place, opened, rfl⟩

/-- A path is refused for want of a folder just if it names no file in one. -/
theorem openPath_noFolder :
    (backend.openPath path tree).1 = .error (.noFolder path) ↔ Path.fileName path = .noFolder := by
  rcases openPath_cases backend path tree with ⟨shape, result⟩ | ⟨shape, result⟩ |
    ⟨folder, name, shape, ⟨-, result⟩ | ⟨place, -, result⟩⟩
  all_goals simp [shape, result]

/-- A path is refused for want of a name just if its last part is none. -/
theorem openPath_noFileName :
    (backend.openPath path tree).1 = .error (.noFileName path) ↔ Path.fileName path = .noName := by
  rcases openPath_cases backend path tree with ⟨shape, result⟩ | ⟨shape, result⟩ |
    ⟨folder, name, shape, ⟨-, result⟩ | ⟨place, -, result⟩⟩
  all_goals simp [shape, result]

/-- A path that names a file is refused just if the file cannot be opened. -/
theorem openPath_cannotOpen : (backend.openPath path tree).1 = .error (.cannotOpen path) ↔
    ∃ folder name, Path.fileName path = .file folder name ∧
      (backend.openIn (Path.folderText path) folder name tree).1 = none := by
  rcases openPath_cases backend path tree with ⟨shape, result⟩ | ⟨shape, result⟩ |
    ⟨folder, name, shape, ⟨opened, result⟩ | ⟨place, opened, result⟩⟩
  · simp [shape, result]
  · simp [shape, result]
  · exact iff_of_true result ⟨folder, name, shape, opened⟩
  · simp [shape, result, opened]

/-- Every error of a path names it. -/
theorem openPath_error {error : SetupError} (fails : (backend.openPath path tree).1 = .error error) :
    error = .noFolder path ∨ error = .noFileName path ∨ error = .cannotOpen path := by
  rcases openPath_cases backend path tree with ⟨-, result⟩ | ⟨-, result⟩ |
    ⟨folder, name, -, ⟨-, result⟩ | ⟨place, -, result⟩⟩
  · exact .inl (Except.error.inj (fails.symm.trans result))
  · exact .inr (.inl (Except.error.inj (fails.symm.trans result)))
  · exact .inr (.inr (Except.error.inj (fails.symm.trans result)))
  · simp [result] at fails

/-- A path that is accepted names a file, and the file was opened. -/
theorem openPath_ok {place : Place} (opened : (backend.openPath path tree).1 = .ok place) :
    ∃ folder name, Path.fileName path = .file folder name ∧
      (backend.openIn (Path.folderText path) folder name tree).1 = some place := by
  rcases openPath_cases backend path tree with ⟨-, result⟩ | ⟨-, result⟩ |
    ⟨folder, name, shape, ⟨-, result⟩ | ⟨placed, found, result⟩⟩
  · simp [result] at opened
  · simp [result] at opened
  · simp [result] at opened
  · obtain rfl : placed = place := by simpa [result] using opened
    exact ⟨folder, name, shape, found⟩

end Path

/-- **Which paths of a log are let through.** No folder is found if the path is empty or the root
alone, and no file name if it goes up at its end or is the single dot alone. Any other path is
handed on to be opened, as the file that its last part names in the folder that the others name. A
path that is written in another way, with a slash or a slash and a dot after it or with a slash
doubled, is let through or not for the same reason, and the same file is opened. -/
theorem openPath_classifies (path : String) (tree : Tree) :
    ((openPath path tree).1 = .error (.noFolder path) ↔
      path = "" ∨ Path.parts path = [.root]) ∧
    ((openPath path tree).1 = .error (.noFileName path) ↔
      (Path.parts path).getLast? = some .parent ∨ Path.parts path = [.current]) ∧
    ((openPath path tree).1 ≠ .error (.noFolder path) →
      (openPath path tree).1 ≠ .error (.noFileName path) →
      ∃ folder name, Path.parts path = folder ++ [.entry name] ∧
        Path.parts (Path.folderText path) = folder ∧
        let handed := tree.openIn (Path.folderText path) folder name
        openPath path tree = (handed.1.elim (.error (.cannotOpen path)) .ok, handed.2)) ∧
    ∀ other, Path.Respells path other →
      ((openPath other tree).1 = .error (.noFolder other) ↔
        (openPath path tree).1 = .error (.noFolder path)) ∧
      ((openPath other tree).1 = .error (.noFileName other) ↔
        (openPath path tree).1 = .error (.noFileName path)) ∧
      (∀ folder name, Path.parts other = folder ++ [.entry name] ↔
        Path.parts path = folder ++ [.entry name]) ∧
      ∀ place placed, (openPath path tree).1 = .ok place → (openPath other tree).1 = .ok placed →
        openPath other tree = openPath path tree := by
  unfold openPath
  refine ⟨?folder, ?name, ?handed, ?respelt⟩
  case folder => rw [openPath_noFolder, Path.fileName_eq_noFolder]
  case name => rw [openPath_noFileName, Path.fileName_eq_noName]
  case handed =>
    intro hasFolder hasName
    rw [ne_eq, openPath_noFolder] at hasFolder
    rw [ne_eq, openPath_noFileName] at hasName
    cases named : Path.fileName path with
    | noFolder => exact absurd named hasFolder
    | noName => exact absurd named hasName
    | file folder name =>
      have read := Path.fileName_eq_file.mp named
      exact ⟨folder, name, read, Path.parts_folderText read, openPath_of_file named⟩
  case respelt =>
    intro other respells
    have same := respells.fileName_eq
    refine ⟨?_, ?_, ?_, ?_⟩
    · rw [openPath_noFolder, openPath_noFolder, same]
    · rw [openPath_noFileName, openPath_noFileName, same]
    · intro folder name
      rw [← Path.fileName_eq_file, ← Path.fileName_eq_file, same]
    · intro place placed opened reopened
      obtain ⟨folder, name, named, opens⟩ := openPath_ok opened
      obtain ⟨folder', name', named', reopens⟩ := openPath_ok reopened
      cases named.symm.trans (same.symm.trans named')
      have handed : Backend.standard.openIn (Path.folderText other) folder name tree =
          Backend.standard.openIn (Path.folderText path) folder name tree :=
        Tree.openIn_congr opens reopens
      rw [openPath_of_file named, openPath_of_file named', handed, opens]
      rfl

/-- A path, and the same path with a slash doubled and a slash and a dot after it, in a folder with
nothing in it. -/
theorem openPath_classifies_respelt :
    let path := "logs" ++ "/" ++ "today"
    let respelt := "logs" ++ "//" ++ "today" ++ "/."
    (openPath path Tree.empty).1 = .ok ["working folder", "logs", "today"] ∧
      Path.Respells path respelt ∧
      (∃ folder name, Path.parts path = folder ++ [.entry name] ∧
        Path.parts (Path.folderText path) = folder) ∧
      openPath respelt Tree.empty = openPath path Tree.empty := by
  intro path respelt
  have named : Path.fileName path = .file [.entry "logs"] "today" := by decide
  have named' : Path.fileName respelt = .file [.entry "logs"] "today" := by decide
  have opened : (openPath path Tree.empty).1 = .ok ["working folder", "logs", "today"] := by
    have found : (Backend.standard.openIn (Path.folderText path) [.entry "logs"] "today"
        Tree.empty).1 = some ["working folder", "logs", "today"] := by decide
    unfold openPath
    rw [openPath_of_file named, found]
    rfl
  have reopened : (openPath respelt Tree.empty).1 = .ok ["working folder", "logs", "today"] := by
    have found : (Backend.standard.openIn (Path.folderText respelt) [.entry "logs"] "today"
        Tree.empty).1 = some ["working folder", "logs", "today"] := by decide
    unfold openPath
    rw [openPath_of_file named', found]
    rfl
  have respells : Path.Respells path respelt := .dot (.doubled .refl)
  have hasFolder : (openPath path Tree.empty).1 ≠ .error (.noFolder path) := by
    rw [opened]
    nofun
  have hasName : (openPath path Tree.empty).1 ≠ .error (.noFileName path) := by
    rw [opened]
    nofun
  obtain ⟨-, -, handed, alike⟩ := openPath_classifies path Tree.empty
  obtain ⟨folder, name, named, inside, -⟩ := handed hasFolder hasName
  obtain ⟨-, -, -, same⟩ := alike respelt respells
  exact ⟨opened, respells, ⟨folder, name, named, inside⟩, same _ _ opened reopened⟩

section Setup
variable {backend : Backend} {config : Config} {tree : Tree} {current : Option Open}
  {error : SetupError}

/-- **A result that ends the program**: an error that is not reported. -/
def EndsProgram {α : Type} (result : Except SetupError α) : Prop :=
  ∃ error, result = .error error ∧ error.message? = none

/-- Setting up a log fails if its path cannot be opened. -/
theorem setUp_error : (config.setUpWith backend tree).1 = .error error ↔
    ∃ path, config.writer.path? = some path ∧ (backend.openPath path tree).1 = .error error := by
  unfold Config.setUpWith Config.fileLayer?
  by_cases nowhere : config.writer = .none
  · simp [nowhere, Writer.path?]
  rw [if_neg nowhere]
  cases config.writer.path? with
  | none => simp
  | some path =>
    simp only [Option.some.injEq, exists_eq_left']
    generalize backend.openPath path tree = opened
    obtain ⟨failed | place, made⟩ := opened
    · simp
    · simp

/-- Setting up a log ends the program just if its path names a file that cannot be opened. -/
theorem endsProgram_setUp : EndsProgram (config.setUpWith backend tree).1 ↔
    ∃ path folder name, config.writer.path? = some path ∧
      Path.parts path = folder ++ [.entry name] ∧
      (backend.openIn (Path.folderText path) folder name tree).1 = none := by
  constructor
  · rintro ⟨error, fails, silent⟩
    obtain ⟨path, asked, failed⟩ := setUp_error.mp fails
    rcases openPath_error failed with rfl | rfl | rfl
    · cases silent
    · cases silent
    · obtain ⟨folder, name, named, blocked⟩ := openPath_cannotOpen.mp failed
      exact ⟨path, folder, name, asked, Path.fileName_eq_file.mp named, blocked⟩
  · rintro ⟨path, folder, name, asked, named, blocked⟩
    have failed : (backend.openPath path tree).1 = .error (.cannotOpen path) :=
      openPath_cannotOpen.mpr ⟨folder, name, Path.fileName_eq_file.mpr named, blocked⟩
    exact ⟨_, setUp_error.mpr ⟨path, asked, failed⟩, rfl⟩

/-- What is in force already makes no difference to whether the program ends. -/
theorem endsProgram_install : EndsProgram (config.installWith backend current tree).1 ↔
    EndsProgram (config.setUpWith backend tree).1 := by
  unfold Config.installWith
  obtain ⟨error | log?, made⟩ := config.setUpWith backend tree
  · rfl
  · cases log? with
    | none => simp [EndsProgram]
    | some log =>
      by_cases installed : current.isSome
      · simp [EndsProgram, installed, SetupError.message?]
      · simp [EndsProgram, installed]

end Setup

/-- **When setting up a log ends the program**, with any backend. It does so, for the whole program
or not, if and only if the log is to go to a file whose path is let through and which the backend
cannot open. Nothing but the shape of the path is looked at before: to each path that is let through
there are trees in which the program ends with every backend that is as documented, all those
without files in which the path was made a folder. -/
theorem setUp_endsProgram (backend : Backend) (config : Config) (current : Option Open)
    (tree : Tree) :
    let blocked := ∃ path folder name, config.writer.path? = some path ∧
      Path.parts path = folder ++ [.entry name] ∧
      (backend.openIn (Path.folderText path) folder name tree).1 = none
    (EndsProgram (config.setUpWith backend tree).1 ↔ blocked) ∧
    (EndsProgram (config.installWith backend current tree).1 ↔ blocked) ∧
    (backend.Documented → ∀ path folder name, config.writer.path? = some path →
      Path.parts path = folder ++ [.entry name] → (∀ place, tree.text? place = none) →
      EndsProgram (config.setUpWith backend (tree.withFolder path)).1 ∧
      EndsProgram (config.installWith backend current (tree.withFolder path)).1) := by
  refine ⟨endsProgram_setUp, endsProgram_install.trans endsProgram_setUp, ?_⟩
  intro documented path folder name asked named empty
  have blocked := documented.refuses (Tree.openIn_withFolder named empty (Path.folderText path))
  have ends : EndsProgram (config.setUpWith backend (tree.withFolder path)).1 :=
    endsProgram_setUp.mpr ⟨path, folder, name, asked, named, blocked⟩
  exact ⟨ends, endsProgram_install.mpr ends⟩

/-- With the backend that comes with the library, a log for a file in a folder that is not there
yet, after the path was made a folder. -/
theorem setUp_endsProgram_nested :
    let config := Config.toBoth .stderr "logs/today"
    Backend.standard.Documented ∧ config.writer.path? = some "logs/today" ∧
      Path.parts "logs/today" = [.entry "logs"] ++ [.entry "today"] ∧
      (∀ place, Tree.empty.text? place = none) ∧
      EndsProgram (config.setUp (Tree.empty.withFolder "logs/today")).1 := by
  intro config
  have documented := Backend.documented_standard
  have named : Path.parts "logs/today" = [.entry "logs"] ++ [.entry "today"] := by decide
  have empty (place : Place) : Tree.empty.text? place = none := by
    unfold Tree.text? Tree.node?
    split <;> simp_all [Tree.empty]
  obtain ⟨-, -, ends⟩ := setUp_endsProgram .standard config none Tree.empty
  exact ⟨documented, rfl, named, empty, (ends documented _ _ _ rfl named empty).1⟩

/-- A log for a file whose path is a folder ends the program. -/
theorem setUp_endsProgram_folder :
    let config := Config.toFile (some "d")
    EndsProgram (config.setUp (Tree.empty.withFolder "d")).1 ∧
      EndsProgram (config.install none (Tree.empty.withFolder "d")).1 := by
  intro config
  have ends : EndsProgram (config.setUp (Tree.empty.withFolder "d")).1 :=
    endsProgram_setUp.mpr ⟨"d", [], "d", rfl, by decide, by decide⟩
  exact ⟨ends, endsProgram_install.mpr ends⟩

end PromptLine.Log
