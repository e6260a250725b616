import PromptLine.File.Tree

/-!
# What files hold

Folders that are made on the way to a file change the text of no file, and a file that is opened
holds what it held before, or nothing if it is new (`PromptLine.File.Tree.Opens`). More text at the
end of one file changes no other.
-/

namespace PromptLine.File.Tree

variable {tree made : Tree} {place other : Place} {node : Node}

/-- Only folders lead to the working folder. -/
theorem not_isPrefixOf (different : tree.node? place ≠ some .folder) :
    ¬ place.isPrefixOf tree.workingFolder := by
  intro leads
  exact different (if_pos leads)

/-- What is put at a place is found there, unless the working folder needs the place. -/
theorem node?_put_self (elsewhere : ¬ place.isPrefixOf tree.workingFolder) :
    (tree.put place node).node? place = some node := by
  have dropped : (tree.entries.filter fun entry => entry.1 != place).lookup place = none := by
    rw [List.lookup_eq_none_iff]
    intro entry member
    have different := (List.mem_filter.mp member).2
    rwa [bne_comm] at different
  unfold node? put
  rw [if_neg elsewhere, List.lookup_append, dropped]
  simp

/-- What is put at a place changes nothing at another. -/
theorem node?_put_of_ne (different : other ≠ place) :
    (tree.put place node).node? other = tree.node? other := by
  have kept (entries : List (Place × Node)) :
      (entries.filter fun entry => entry.1 != place).lookup other = entries.lookup other := by
    induction entries with
    | nil => rfl
    | cons entry entries ih =>
      by_cases same : entry.1 = place
      · have passed : (other == entry.1) = false := by simp [same, different]
        rw [List.filter_cons_of_neg (by simp [same]), ih, List.lookup_cons, passed]
      · rw [List.filter_cons_of_pos (by simp [same]), List.lookup_cons, List.lookup_cons, ih]
  have last : [(place, node)].lookup other = none := by
    simp [List.lookup_eq_none_iff, different]
  unfold node? put
  dsimp only
  rw [List.lookup_append, kept, last, Option.or_none]

/-- A file that is put at a place has its text there. -/
theorem text?_put_self (elsewhere : ¬ place.isPrefixOf tree.workingFolder) (text : String) :
    (tree.put place (.file text)).text? place = some text := by
  simp only [text?, node?_put_self elsewhere]

/-- A file elsewhere keeps its text. -/
theorem text?_put_of_ne (different : other ≠ place) :
    (tree.put place node).text? other = tree.text? other := by
  simp only [text?, node?_put_of_ne different]

/-- A folder that is made where there was nothing changes the text of no file. -/
theorem text?_put_folder (nothing : tree.node? place = none) (other : Place) :
    (tree.put place .folder).text? other = tree.text? other := by
  by_cases same : other = place
  · have elsewhere : ¬ place.isPrefixOf tree.workingFolder := not_isPrefixOf (by simp [nothing])
    simp only [text?, same, node?_put_self elsewhere, nothing]
  · exact text?_put_of_ne same

/-- A step into an entry leads to a folder that is there, or to one that is made where there was
nothing. -/
theorem enter_entry_cases {name : String} {next : Place}
    (entered : tree.enter place (.entry name) = some (next, made)) :
    next = place ++ [name] ∧
      (tree.node? next = some .folder ∧ made = tree ∨
        tree.node? next = none ∧ made = tree.put next .folder) := by
  unfold enter at entered
  dsimp only at entered
  cases found : tree.node? (place ++ [name]) with
  | none =>
    rw [found] at entered
    dsimp only at entered
    split at entered
    · cases entered
      exact ⟨rfl, .inr ⟨found, rfl⟩⟩
    · cases entered
  | some node =>
    rw [found] at entered
    cases node with
    | folder =>
      cases entered
      exact ⟨rfl, .inl ⟨found, rfl⟩⟩
    | file text => cases entered

/-- A step changes nothing, or a folder is made where there was nothing. -/
theorem enter_cases {part : Part} {next : Place}
    (entered : tree.enter place part = some (next, made)) :
    made = tree ∨ tree.node? next = none ∧ made = tree.put next .folder := by
  cases part with
  | root | current | parent =>
    cases entered
    exact .inl rfl
  | entry name => exact (enter_entry_cases entered).2.imp_left And.right

/-- Entering a part of a path changes no file. -/
theorem text?_enter {part : Part} {next : Place}
    (entered : tree.enter place part = some (next, made)) (other : Place) :
    made.text? other = tree.text? other := by
  rcases enter_cases entered with rfl | ⟨nothing, rfl⟩
  · rfl
  · exact text?_put_folder nothing other

/-- **Folders that are made change the text of no file.** -/
theorem text?_makeFolders (parts : List Part) (other : Place) :
    (tree.makeFolders place parts).2.text? other = tree.text? other := by
  induction parts generalizing tree place with
  | nil => rfl
  | cons part rest ih =>
    unfold makeFolders
    cases entered : tree.enter place part with
    | none => rfl
    | some reached => exact ih.trans (text?_enter entered other)

/-- **A file was opened.** It holds what it held before, or nothing if there was none, and no other
file changed. -/
structure Opens (before opened : Tree) (place : Place) : Prop where
  text : opened.text? place = some ((before.text? place).getD "")
  others : ∀ other, other ≠ place → opened.text? other = before.text? other

/-- A file that was opened holds what it held before, and no other file changed. -/
theorem opens_openFile {name : String} {folder : Place}
    (opened : tree.openFile name folder = (some place, made)) : tree.Opens made place := by
  unfold openFile at opened
  dsimp only at opened
  cases found : tree.node? (folder ++ [name]) with
  | none =>
    rw [found] at opened
    dsimp only at opened
    split at opened
    · cases opened
      refine ⟨?_, fun other different => text?_put_of_ne different⟩
      rw [text?_put_self (not_isPrefixOf (by simp [found]))]
      simp [text?, found]
    · cases opened
  | some node =>
    rw [found] at opened
    cases node with
    | folder => cases opened
    | file text =>
      cases opened
      exact ⟨by simp [text?, found], fun _ _ => rfl⟩

/-- A file that was opened by its path holds what it held before, and no other file changed. -/
theorem opens_openIn {text name : String} {folder : List Part}
    (opened : tree.openIn text folder name = (some place, made)) : tree.Opens made place := by
  unfold openIn at opened
  split at opened
  · cases opened
  have same (other : Place) :
      (tree.makeFolders tree.workingFolder folder).2.text? other = tree.text? other :=
    text?_makeFolders folder other
  generalize tree.makeFolders tree.workingFolder folder = reached at opened same
  obtain ⟨place? | inside, between⟩ := reached
  · cases opened
  dsimp only at opened same
  split at opened
  · have opens := opens_openFile opened
    refine ⟨?_, fun other different => (opens.others other different).trans (same other)⟩
    rw [opens.text, same]
  · cases opened

section Append
variable {text old : String}

/-- What is appended to a file stands at its end. -/
theorem text?_append_self (holds : tree.text? place = some old) :
    (tree.append text place).text? place = some (old ++ text) := by
  have elsewhere : ¬ place.isPrefixOf tree.workingFolder := by
    refine not_isPrefixOf fun folder => ?_
    simp [text?, folder] at holds
  unfold append
  rw [holds]
  exact text?_put_self elsewhere _

/-- What is appended to a file changes no other. -/
theorem text?_append_of_ne (different : other ≠ place) :
    (tree.append text place).text? other = tree.text? other := by
  unfold append
  cases tree.text? place with
  | none => rfl
  | some old => exact text?_put_of_ne different

end Append

end PromptLine.File.Tree
