import PromptLine.Proofs.File.Tree

/-!
# Folders that were made

Nothing that is done on the way to a file removes a folder, so a way that was gone once can be gone
again and ends in the same place (`PromptLine.File.Tree.makeFolders_of_keeps`). If there are no
files in the way, then after a path was made a folder no file of this name can be opened
(`PromptLine.File.Tree.openIn_withFolder`).
-/

namespace PromptLine.File.Tree

variable {tree made later : Tree} {place next : Place} {part : Part} {parts folder : List Part}
  {text name : String}

/-- **All folders are kept**: each place that had one has one later. -/
structure Keeps (tree later : Tree) : Prop where
  workingFolder : later.workingFolder = tree.workingFolder
  folders : ∀ place, tree.node? place = some .folder → later.node? place = some .folder

namespace Keeps

theorem refl (tree : Tree) : tree.Keeps tree := ⟨rfl, fun _ found => found⟩

theorem trans (first : tree.Keeps made) (second : made.Keeps later) : tree.Keeps later where
  workingFolder := second.workingFolder.trans first.workingFolder
  folders := fun place found => second.folders place (first.folders place found)

end Keeps

/-- A folder that was made is there. -/
theorem node?_put_folder (tree : Tree) (place : Place) :
    (tree.put place .folder).node? place = some .folder := by
  by_cases leads : place.isPrefixOf tree.workingFolder
  · exact if_pos leads
  · exact node?_put_self leads

/-- Making a folder takes nothing away. -/
theorem keeps_put_folder (tree : Tree) (place : Place) : tree.Keeps (tree.put place .folder) := by
  refine ⟨rfl, ?_⟩
  intro other found
  by_cases same : other = place
  · rw [same]
    exact tree.node?_put_folder place
  · rw [node?_put_of_ne same, found]

/-- A step into an entry leads to a folder that is there then. -/
theorem enter_entry (entered : tree.enter place (.entry name) = some (next, made)) :
    next = place ++ [name] ∧ made.node? next = some .folder := by
  obtain ⟨named, ⟨found, rfl⟩ | ⟨-, rfl⟩⟩ := enter_entry_cases entered
  · exact ⟨named, found⟩
  · exact ⟨named, tree.node?_put_folder next⟩

/-- Entering a part of a path takes nothing away. -/
theorem keeps_enter (entered : tree.enter place part = some (next, made)) : tree.Keeps made := by
  rcases enter_cases entered with rfl | ⟨-, rfl⟩
  · exact .refl made
  · exact tree.keeps_put_folder next

/-- Making the folders of a path takes nothing away, even when that fails on the way. -/
theorem keeps_makeFolders (tree : Tree) (place : Place) (parts : List Part) :
    tree.Keeps (tree.makeFolders place parts).2 := by
  induction parts generalizing tree place with
  | nil => exact .refl tree
  | cons part rest ih =>
    unfold makeFolders
    cases entered : tree.enter place part with
    | none => exact .refl tree
    | some reached => exact (keeps_enter entered).trans (ih _ _)

/-- A step that was taken once leads to the same place later, and nothing is made. -/
theorem enter_of_keeps (entered : tree.enter place part = some (next, made))
    (keeps : made.Keeps later) : later.enter place part = some (next, later) := by
  cases part with
  | root =>
    cases entered
    rfl
  | current =>
    cases entered
    rfl
  | parent =>
    cases entered
    rfl
  | entry name =>
    obtain ⟨rfl, found⟩ := enter_entry entered
    unfold enter
    simp only [keeps.folders _ found]

/-- **A way that was gone once** leads to the same place later, and nothing is made. A way that was
blocked is still blocked if nothing else was made. -/
theorem makeFolders_of_keeps {next? : Option Place}
    (reached : tree.makeFolders place parts = (next?, made)) (keeps : made.Keeps later)
    (blocked : next? = none → later = made) :
    later.makeFolders place parts = (next?, later) := by
  induction parts generalizing tree place with
  | nil =>
    cases reached
    rfl
  | cons part rest ih =>
    unfold makeFolders at reached ⊢
    cases entered : tree.enter place part with
    | none =>
      rw [entered] at reached
      cases reached
      rw [blocked rfl, entered]
    | some step =>
      obtain ⟨inner, between⟩ := step
      rw [entered] at reached
      dsimp only at reached
      have kept := keeps_makeFolders between inner rest
      rw [reached] at kept
      rw [enter_of_keeps entered (kept.trans keeps)]
      exact ih reached

/-- The last folder of a path is made after the others, unless one of those failed. -/
theorem makeFolders_concat (tree : Tree) (place : Place) (folder : List Part) (part : Part) :
    tree.makeFolders place (folder ++ [part]) =
      match tree.makeFolders place folder with
      | (some next, made) => made.makeFolders next [part]
      | (none, made) => (none, made) := by
  induction folder generalizing tree place with
  | nil => rfl
  | cons head rest ih =>
    rw [List.cons_append]
    unfold makeFolders
    cases tree.enter place head with
    | none => rfl
    | some reached => exact ih _ _

/-- A file cannot be opened where its folder cannot be reached. -/
theorem openIn_of_blocked
    (blocked : (tree.makeFolders tree.workingFolder folder).1 = none) :
    (tree.openIn text folder name).1 = none := by
  unfold openIn
  split
  · rfl
  · generalize tree.makeFolders tree.workingFolder folder = reached at blocked
    obtain ⟨place?, made⟩ := reached
    cases blocked
    rfl

/-- A file cannot be opened where none can be in its folder. -/
theorem openIn_of_taken
    (reached : tree.makeFolders tree.workingFolder folder = (some next, made))
    (taken : (made.openFile name next).1 = none) : (tree.openIn text folder name).1 = none := by
  unfold openIn
  rw [reached]
  split
  · rfl
  · dsimp only
    split
    · exact taken
    · rfl

/-- A file that was opened was opened where its folder leads. -/
theorem openIn_of_some (opened : (tree.openIn text folder name).1 = some place) :
    ∃ next between, tree.makeFolders tree.workingFolder folder = (some next, between) ∧
      tree.openIn text folder name = between.openFile name next := by
  unfold openIn at opened ⊢
  split at opened
  · cases opened
  next usable =>
    rw [if_neg usable]
    generalize tree.makeFolders tree.workingFolder folder = reached at opened ⊢
    obtain ⟨next? | next, between⟩ := reached
    · cases opened
    · dsimp only at opened ⊢
      split at opened
      next usable => exact ⟨next, between, rfl, if_pos usable⟩
      · cases opened

/-- How a folder is written makes no difference to a file that is opened in it. -/
theorem openIn_congr {other : String} (opened : (tree.openIn text folder name).1 = some place)
    (reopened : (tree.openIn other folder name).1 = some next) :
    tree.openIn other folder name = tree.openIn text folder name := by
  obtain ⟨inside, between, reached, opens⟩ := openIn_of_some opened
  obtain ⟨inside', between', reached', opens'⟩ := openIn_of_some reopened
  cases reached.symm.trans reached'
  rw [opens, opens']

/-- Where a step cannot be taken because of the name, no file has this name either. -/
theorem openFile_of_enter_none (entered : tree.enter place (.entry name) = none)
    (empty : ∀ place, tree.text? place = none) : (tree.openFile name place).1 = none := by
  unfold enter at entered
  unfold openFile
  dsimp only at entered ⊢
  cases found : tree.node? (place ++ [name]) with
  | none =>
    rw [found] at entered
    dsimp only at entered ⊢
    split at entered
    · cases entered
    next forbidden => rw [if_neg forbidden]
  | some node =>
    cases node with
    | folder => rfl
    | file text =>
      have holds : tree.text? (place ++ [name]) = some text := by simp only [text?, found]
      rw [empty] at holds
      cases holds

/-- **Where a path is a folder**, no file of this path can be opened. Where there are no files in
the way and no folder can be made of it, neither can a file. -/
theorem openIn_withFolder {path : String} (named : Path.parts path = folder ++ [.entry name])
    (empty : ∀ place, tree.text? place = none) (text : String) :
    ((tree.withFolder path).openIn text folder name).1 = none := by
  have kept := tree.keeps_makeFolders tree.workingFolder folder
  have fileless (other : Place) :
      (tree.makeFolders tree.workingFolder folder).2.text? other = none :=
    (text?_makeFolders folder other).trans (empty other)
  unfold withFolder
  rw [named, makeFolders_concat]
  generalize reached : tree.makeFolders tree.workingFolder folder = result at kept fileless
  obtain ⟨next?, made⟩ := result
  cases next? with
  | none =>
    apply openIn_of_blocked
    rw [kept.workingFolder, makeFolders_of_keeps reached (.refl made) fun _ => rfl]
  | some next =>
    dsimp only
    unfold makeFolders
    cases entered : made.enter next (.entry name) with
    | none =>
      have again : made.makeFolders made.workingFolder folder = (some next, made) := by
        rw [kept.workingFolder]
        exact makeFolders_of_keeps reached (.refl made) (by simp)
      exact openIn_of_taken again (openFile_of_enter_none entered fileless)
    | some step =>
      obtain ⟨inner, filled⟩ := step
      have keeps := keeps_enter entered
      obtain ⟨rfl, found⟩ := enter_entry entered
      have again : filled.makeFolders filled.workingFolder folder = (some next, filled) := by
        rw [keeps.workingFolder, kept.workingFolder]
        exact makeFolders_of_keeps reached keeps (by simp)
      have taken : (filled.openFile name next).1 = none := by
        unfold openFile
        simp only [found]
      exact openIn_of_taken again taken

end PromptLine.File.Tree
