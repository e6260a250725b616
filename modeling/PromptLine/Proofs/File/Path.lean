import PromptLine.File.Path

/-!
# What a path names

The pieces of a path are what a list of characters is split into at its slashes, so joining and
splitting undo each other. Of the parts of a path only the first can be the root or the single dot
(`PromptLine.File.Path.isInner_of_mem_tail`). From this follows which paths name a file, and what
the others lack: a path without a folder is empty or the root alone, and a path without a file name
goes up at its end or is the single dot alone.

The text of the folder of a file reads back as all parts but the last
(`PromptLine.File.Path.parts_folderText`). A slash or a slash and a dot at the end, and a slash that
is doubled, change nothing of what a path names (`PromptLine.File.Path.Respells.fileName_eq`).
-/

namespace PromptLine.File.Path

section Pieces
variable {text piece first : List Char} {others : List (List Char)} {c : Char}

/-- The pieces of a path are what is between its slashes. -/
theorem pieces_eq_splitOn (text : List Char) : pieces text = text.splitOn '/' := by
  induction text with
  | nil => rfl
  | cons c rest ih =>
    rw [List.splitOn_cons_eq_if_modifyHead, ← ih, pieces]
    cases found : pieces rest with
    | nil => exact absurd (ih.symm.trans found) (List.splitOn_ne_nil '/' rest)
    | cons first others =>
      by_cases slash : c = '/'
      · simp [slash]
      · simp [slash]

/-- A path has at least one piece, which may be empty. -/
theorem exists_pieces (text : List Char) : ∃ first others, pieces text = first :: others := by
  apply List.exists_cons_of_ne_nil
  rw [pieces_eq_splitOn]
  exact List.splitOn_ne_nil '/' text

@[simp] theorem pieces_slash (rest : List Char) : pieces ('/' :: rest) = [] :: pieces rest := by
  simp [pieces_eq_splitOn, List.splitOn_cons_eq_if_modifyHead]

/-- A character that is no slash belongs to the first piece. -/
theorem pieces_cons (plain : c ≠ '/') {rest : List Char} (split : pieces rest = first :: others) :
    pieces (c :: rest) = (c :: first) :: others := by
  rw [pieces, split]
  exact if_neg plain

/-- A slash separates the pieces before it from those after it. -/
theorem pieces_append_slash (before after : List Char) :
    pieces (before ++ '/' :: after) = pieces before ++ pieces after := by
  simp only [pieces_eq_splitOn, List.splitOn_append_cons_self]

/-- There is no slash in a piece. -/
theorem not_mem_of_mem_pieces (member : piece ∈ pieces text) : '/' ∉ piece := by
  induction text generalizing piece with
  | nil =>
    obtain rfl : piece = [] := List.mem_singleton.mp member
    exact List.not_mem_nil
  | cons c rest ih =>
    by_cases slash : c = '/'
    · rw [slash, pieces_slash] at member
      rcases List.mem_cons.mp member with rfl | inside
      · exact List.not_mem_nil
      · exact ih inside
    · obtain ⟨first, others, split⟩ := exists_pieces rest
      rw [split] at ih
      rw [pieces_cons slash split] at member
      rcases List.mem_cons.mp member with rfl | inside
      · exact List.not_mem_cons_of_ne_of_not_mem (Ne.symm slash) (ih List.mem_cons_self)
      · exact ih (List.mem_cons_of_mem _ inside)

/-- Pieces that are joined by slashes are the pieces of what they are joined to. -/
theorem pieces_intercalate (plain : ∀ piece ∈ first :: others, '/' ∉ piece) :
    pieces (String.intercalate "/" ((first :: others).map String.ofList)).toList =
      first :: others := by
  have texts : ((first :: others).map String.ofList).map String.toList = first :: others := by
    simp [Function.comp_def]
  rw [String.toList_intercalate, texts, pieces_eq_splitOn]
  exact List.splitOn_intercalate '/' plain (List.cons_ne_nil _ _)

/-- A path starts at the root if its first piece is empty and not the only one. -/
theorem isAbsolute_iff (split : pieces text = first :: others) :
    isAbsolute text ↔ first = [] ∧ others ≠ [] := by
  cases text with
  | nil =>
    cases split
    simp [isAbsolute]
  | cons c rest =>
    obtain ⟨next, later, found⟩ := exists_pieces rest
    by_cases slash : c = '/'
    · rw [slash, pieces_slash, found] at split
      cases split
      simp [isAbsolute, slash]
    · rw [pieces_cons slash found] at split
      cases split
      simp [isAbsolute, slash]

end Pieces

section Parts
variable {text other : String} {first : List Char} {others more : List (List Char)} {part : Part}
  {folder : List Part} {name : String}

/-- The part that a path starts with, by its first piece and the other ones. -/
def leading (first : List Char) (others : List (List Char)) : List Part :=
  if first = [] then if others = [] then [] else [.root]
  else if first = ['.'] then [.current]
  else (part? first).toList

@[simp] theorem part?_nil : part? [] = none := rfl

@[simp] theorem part?_dot : part? ['.'] = none := rfl

/-- The parts of a path are its leading part and what the other pieces are. -/
theorem parts_of_pieces (split : pieces text.toList = first :: others) :
    parts text = leading first others ++ others.filterMap part? := by
  have absolute := isAbsolute_iff split
  unfold parts leading
  rw [split]
  by_cases nothing : first = []
  · by_cases alone : others = []
    · simp_all
    · simp_all [List.filterMap_cons]
  · by_cases dot : first = ['.']
    · simp_all [List.filterMap_cons]
    · cases found : part? first with
      | none => simp_all
      | some part => simp_all

/-- A path has at most one leading part. -/
theorem length_leading_le (first : List Char) (others : List (List Char)) :
    (leading first others).length ≤ 1 := by
  unfold leading
  split
  · split
    · exact Nat.zero_le 1
    · exact Nat.le_refl 1
  · split
    · exact Nat.le_refl 1
    · exact Option.length_toList_le

/-- Only the path that is one empty piece has no leading part. -/
theorem leading_eq_nil (nothing : leading first others = []) : first = [] ∧ others = [] := by
  unfold leading at nothing
  split at nothing
  next empty =>
    split at nothing
    · exact ⟨empty, ‹_›⟩
    · cases nothing
  next some =>
    split at nothing
    · cases nothing
    · unfold part? at nothing
      split at nothing
      · contradiction
      · contradiction
      · cases nothing
      · cases nothing

/-- A piece that is a part is neither the root nor the folder itself. -/
theorem isInner_of_part? {piece : List Char} (counts : part? piece = some part) :
    part ≠ .root ∧ part ≠ .current := by
  unfold part? at counts
  split at counts
  · cases counts
  · cases counts
  · cases counts
    exact ⟨nofun, nofun⟩
  · cases counts
    exact ⟨nofun, nofun⟩

/-- **Only the first part** of a path can be the root or the single dot. -/
theorem isInner_of_mem_tail (member : part ∈ (parts text).tail) :
    part ≠ .root ∧ part ≠ .current := by
  obtain ⟨first, others, split⟩ := exists_pieces text.toList
  have later : part ∈ others.filterMap part? := by
    rw [parts_of_pieces split] at member
    have short := length_leading_le first others
    cases start : leading first others with
    | nil =>
      rw [start] at member
      exact List.mem_of_mem_tail member
    | cons head rest =>
      rw [start, List.length_cons] at short
      obtain rfl : rest = [] := List.eq_nil_of_length_eq_zero (by omega)
      rw [start] at member
      exact member
  obtain ⟨piece, -, counts⟩ := List.mem_filterMap.mp later
  exact isInner_of_part? counts

/-- A path that ends with such a part consists of it. -/
theorem parts_eq_singleton (last : (parts text).getLast? = some part)
    (outer : part = .root ∨ part = .current) : parts text = [part] := by
  have inner (member : part ∈ (parts text).tail) : False := by
    obtain ⟨notRoot, notCurrent⟩ := isInner_of_mem_tail member
    exact outer.elim notRoot notCurrent
  cases read : parts text with
  | nil => simp [read] at last
  | cons head rest =>
    rw [read] at last inner
    cases rest with
    | nil => simpa using last
    | cons next rest =>
      rw [List.getLast?_cons_cons] at last
      exact (inner (List.mem_of_getLast? last)).elim

/-- Only the empty path has no parts. -/
theorem parts_eq_nil : parts text = [] ↔ text = "" := by
  constructor
  · intro nothing
    obtain ⟨first, others, split⟩ := exists_pieces text.toList
    rw [parts_of_pieces split] at nothing
    obtain ⟨rfl, rfl⟩ := leading_eq_nil (List.append_eq_nil_iff.mp nothing).1
    have whole : ['/'].intercalate (pieces text.toList) = text.toList := by
      rw [pieces_eq_splitOn]
      exact List.intercalate_splitOn '/'
    rw [split] at whole
    apply String.toList_eq_nil_iff.mp
    simpa using whole.symm
  · rintro rfl
    rfl

/-- A path has no folder if it is empty or the root alone. -/
theorem fileName_eq_noFolder : fileName text = .noFolder ↔ text = "" ∨ parts text = [.root] := by
  rw [← parts_eq_nil]
  cases last : (parts text).getLast? with
  | none => simp [fileName, List.getLast?_eq_none_iff.mp last]
  | some part =>
    have some : parts text ≠ [] := by
      intro nothing
      simp [nothing] at last
    have alone : parts text = [.root] → part = .root := by
      intro root
      simpa [root, eq_comm] using last
    cases part with
    | root => simp [fileName, parts_eq_singleton last (.inl rfl)]
    | current => simpa [fileName, last, some] using alone
    | parent => simpa [fileName, last, some] using alone
    | entry name => simpa [fileName, last, some] using alone

/-- A path has no file name if it goes up at its end or is the single dot alone. -/
theorem fileName_eq_noName :
    fileName text = .noName ↔ (parts text).getLast? = some .parent ∨ parts text = [.current] := by
  cases last : (parts text).getLast? with
  | none => simp [fileName, List.getLast?_eq_none_iff.mp last]
  | some part =>
    have alone : parts text = [.current] → part = .current := by
      intro current
      simpa [current, eq_comm] using last
    cases part with
    | root => simpa [fileName, last] using alone
    | current => simp [fileName, parts_eq_singleton last (.inr rfl)]
    | parent => simp [fileName, last]
    | entry name => simpa [fileName, last] using alone

/-- A path names a file if it ends with the name of an entry. -/
theorem fileName_eq_file :
    fileName text = .file folder name ↔ parts text = folder ++ [.entry name] := by
  cases last : (parts text).getLast? with
  | none => simp [fileName, List.getLast?_eq_none_iff.mp last]
  | some part =>
    obtain ⟨front, read⟩ := List.getLast?_eq_some_iff.mp last
    cases part with
    | root => simp [fileName, read]
    | current => simp [fileName, read]
    | parent => simp [fileName, read]
    | entry name => simp [fileName, read]

end Parts

section Folder
variable {text : String} {first : List Char} {others : List (List Char)} {folder : List Part}
  {name : String}

/-- Whether a piece is left out of the parts. -/
abbrev isIgnored (piece : List Char) : Bool := (part? piece).isNone

/-- Pieces that do not count can be dropped. -/
theorem filterMap_dropWhile (pieces : List (List Char)) :
    (pieces.dropWhile isIgnored).filterMap part? = pieces.filterMap part? := by
  induction pieces with
  | nil => rfl
  | cons piece pieces ih =>
    cases counts : part? piece with
    | none => simp [isIgnored, counts, ih]
    | some part => simp [isIgnored, counts]

/-- The first piece that is left after that counts. -/
theorem filterMap_of_dropWhile {pieces rest : List (List Char)} {piece : List Char}
    (found : pieces.dropWhile isIgnored = piece :: rest) :
    ∃ part, pieces.filterMap part? = part :: rest.filterMap part? := by
  have counts : isIgnored piece = false := by
    have head := List.head?_dropWhile_not isIgnored pieces
    simpa [found] using head
  obtain ⟨part, read⟩ := Option.isSome_iff_exists.mp (by simpa using counts)
  refine ⟨part, ?_⟩
  rw [← filterMap_dropWhile, found, List.filterMap_cons_some read]

/-- The folder is written as the pieces before the last one that counts, if that is not the first
piece. -/
theorem folderText_cases (split : pieces text.toList = first :: others) :
    others.filterMap part? = [] ∧ folderText text = "" ∨
    ∃ before part, others.filterMap part? = before.filterMap part? ++ [part] ∧
      before ⊆ others ∧
      folderText text = if first.isEmpty && before.isEmpty then "/"
        else String.intercalate "/" ((first :: before).map String.ofList) := by
  unfold folderText
  rw [split]
  cases found : others.reverse.dropWhile isIgnored with
  | nil =>
    have same := filterMap_dropWhile others.reverse
    rw [found, List.filterMap_reverse] at same
    exact .inl ⟨List.reverse_eq_nil_iff.mp same.symm, by simp only [found]⟩
  | cons last before =>
    obtain ⟨part, read⟩ := filterMap_of_dropWhile found
    refine .inr ⟨(before.dropWhile isIgnored).reverse, part, ?_, ?_, by simp only [found]⟩
    · rw [List.filterMap_reverse, filterMap_dropWhile, ← List.reverse_cons, ← read,
        List.filterMap_reverse, List.reverse_reverse]
    · intro piece member
      have within : piece ∈ others.reverse.dropWhile isIgnored := by
        rw [found]
        exact List.mem_cons_of_mem _ (List.dropWhile_subset _ (List.mem_reverse.mp member))
      exact List.mem_reverse.mp (List.dropWhile_subset _ within)

/-- The first part of a path does not depend on what else there is, if there is something. -/
theorem leading_congr {more : List (List Char)} (same : first = [] → (more = [] ↔ others = [])) :
    leading first more = leading first others := by
  unfold leading
  by_cases nothing : first = []
  · rw [if_pos nothing, if_pos nothing]
    simp only [same nothing]
  · rw [if_neg nothing, if_neg nothing]

/-- **The folder of a file** has all parts of the path but the last. -/
theorem parts_folderText (named : parts text = folder ++ [.entry name]) :
    parts (folderText text) = folder := by
  obtain ⟨first, others, split⟩ := exists_pieces text.toList
  rw [parts_of_pieces split] at named
  rcases folderText_cases split with ⟨none, written⟩ | ⟨before, part, read, within, written⟩
  · have short := length_leading_le first others
    rw [none, List.append_nil] at named
    rw [named, List.length_append, List.length_singleton] at short
    obtain rfl : folder = [] := List.eq_nil_of_length_eq_zero (by omega)
    rw [written]
    rfl
  have more : others ≠ [] := by
    rintro rfl
    simp at read
  rw [read, ← List.append_assoc] at named
  obtain rfl : leading first others ++ before.filterMap part? = folder :=
    (List.append_inj' named rfl).1
  rw [written]
  by_cases root : first.isEmpty && before.isEmpty
  · obtain ⟨rfl, rfl⟩ : first = [] ∧ before = [] := by simpa using root
    rw [if_pos root]
    simp only [leading, if_neg more]
    rfl
  · rw [if_neg root]
    have plain : ∀ piece ∈ first :: before, '/' ∉ piece := by
      intro piece member
      have listed : piece ∈ pieces text.toList := by
        rw [split]
        exact List.cons_subset_cons first within member
      exact not_mem_of_mem_pieces listed
    have start : leading first before = leading first others := by
      apply leading_congr
      intro nothing
      have some : before ≠ [] := by simpa [nothing] using root
      exact iff_of_false some more
    rw [parts_of_pieces (pieces_intercalate plain), start]

end Folder

section Respelling

/-- **Other ways to write a path**: with a slash or a slash and a dot after it, or with a slash in
it doubled. -/
inductive Respells (path : String) : String → Prop
  | refl : Respells path path
  | slash {text : String} : Respells path text → Respells path (text ++ "/")
  | dot {text : String} : Respells path text → Respells path (text ++ "/.")
  | doubled {before after : String} :
      Respells path (before ++ "/" ++ after) → Respells path (before ++ "//" ++ after)

variable {path text other : String} {piece : List Char} {before after : List (List Char)}

/-- A piece that does not count changes nothing between others or after them. -/
theorem fileName_insert (ignored : part? piece = none) (some : before ≠ [])
    (split : pieces text.toList = before ++ after)
    (respelt : pieces other.toList = before ++ piece :: after) :
    fileName other = fileName text := by
  obtain ⟨first, rest, rfl⟩ := List.exists_cons_of_ne_nil some
  rw [List.cons_append] at split respelt
  have same : (rest ++ piece :: after).filterMap part? = (rest ++ after).filterMap part? := by
    simp [List.filterMap_append, ignored]
  by_cases nothing : text = ""
  · -- The empty path names nothing, and a slash after it the root.
    have none : fileName text = .noFolder := fileName_eq_noFolder.mpr (.inl nothing)
    obtain ⟨rfl, rfl, rfl⟩ : first = [] ∧ rest = [] ∧ after = [] := by
      simpa [nothing, pieces, eq_comm] using split
    rw [none, fileName_eq_noFolder, parts_of_pieces respelt]
    exact .inr (by simp [leading, ignored])
  · have start : leading first (rest ++ piece :: after) = leading first (rest ++ after) := by
      apply leading_congr
      intro empty
      have more : rest ++ after ≠ [] := by
        intro alone
        have none : parts text = [] := by
          rw [parts_of_pieces split, alone]
          simp [leading, empty]
        exact nothing (parts_eq_nil.mp none)
      exact iff_of_false (by simp) more
    have read : parts other = parts text := by
      rw [parts_of_pieces respelt, parts_of_pieces split, start, same]
    unfold fileName
    rw [read]

/-- **A path that is written in another way** names the same file, or lacks the same. -/
theorem Respells.fileName_eq (respells : Respells path other) : fileName other = fileName path := by
  have some (text : String) : pieces text.toList ≠ [] := by
    obtain ⟨first, others, split⟩ := exists_pieces text.toList
    simp [split]
  have written (text after : String) :
      pieces (text ++ "/" ++ after).toList = pieces text.toList ++ pieces after.toList := by
    rw [String.toList_append, String.toList_append, List.append_assoc]
    exact pieces_append_slash text.toList after.toList
  induction respells with
  | refl => rfl
  | @slash text _ ih =>
    have respelt : pieces (text ++ "/").toList = pieces text.toList ++ [[]] := by
      rw [String.toList_append]
      exact pieces_append_slash text.toList []
    exact (fileName_insert part?_nil (some text) (List.append_nil _).symm respelt).trans ih
  | @dot text _ ih =>
    have respelt : pieces (text ++ "/.").toList = pieces text.toList ++ [['.']] := by
      rw [String.toList_append]
      exact pieces_append_slash text.toList ['.']
    exact (fileName_insert part?_dot (some text) (List.append_nil _).symm respelt).trans ih
  | @doubled before after _ ih =>
    have respelt : pieces (before ++ "//" ++ after).toList =
        pieces before.toList ++ [] :: pieces after.toList := by
      rw [String.toList_append, String.toList_append, List.append_assoc]
      refine (pieces_append_slash before.toList ('/' :: after.toList)).trans ?_
      rw [pieces_slash]
    exact (fileName_insert part?_nil (some before) (written before after) respelt).trans ih

end Respelling

end PromptLine.File.Path
