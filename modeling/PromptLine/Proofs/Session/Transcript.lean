import Mathlib.Data.List.GetD
import PromptLine.Proofs.Session.Leaving

/-!
# What is left of many lines

Lines that are entered one after the other on the same terminal stay where they are: a session
paints no row above its first one, covers with spaces what it painted beyond the line that was
entered, and leaves the cursor at the start of the row below that line, where the next session
begins. So the screen ends up with the prompts and the entered lines below each other, and with
nothing else (`PromptLine.transcript_shows`).
-/

namespace PromptLine

namespace Script

/-- **The record keeps below** the row of the cursor: since the first terminal, the cursor was moved
into no row above the one that it was in then. -/
def KeepsBelow (start script : Script) : Prop :=
  ∃ recorded, script.operations.toList = start.operations.toList ++ recorded ∧
    ∀ operation ∈ recorded, operation.StaysBelow start.cursor.row.toNat

namespace KeepsBelow
variable {start script : Script}

theorem refl (start : Script) : start.KeepsBelow start :=
  ⟨[], (List.append_nil _).symm, List.forall_mem_nil _⟩

/-- Operations that stay below a row keep below it. -/
theorem recordAll (keeps : start.KeepsBelow script) {operations : List Operation}
    (stay : ∀ operation ∈ operations, operation.StaysBelow start.cursor.row.toNat) :
    start.KeepsBelow (script.recordAll operations) := by
  obtain ⟨recorded, written, stayed⟩ := keeps
  refine ⟨recorded ++ operations, ?_, List.forall_mem_append.mpr ⟨stayed, stay⟩⟩
  rw [recordAll_operations, written, List.append_assoc]

/-- A flush keeps below every row. -/
theorem flush (keeps : start.KeepsBelow script) : start.KeepsBelow (script.recordAll [.flush]) := by
  apply keeps.recordAll
  simp [Operation.StaysBelow, Operation.target?]

/-- A line break below a row keeps below it. -/
theorem lineBreak (keeps : start.KeepsBelow script) {position : Position}
    (below : start.cursor.row.toNat ≤ position.row.toNat) :
    start.KeepsBelow (script.recordAll [.move position, .writeLine "", .flush]) := by
  apply keeps.recordAll
  simp [Operation.StaysBelow, Operation.target?, below]

end KeepsBelow

/-- A line break after the last line leaves the image as it is. -/
theorem Pictures.lineBreak {start script : Script} {image : List Char}
    (pictures : start.Pictures script image) (same : script.width = start.width)
    (position : Position) :
    start.Pictures (script.recordAll [.move position, .writeLine "", .flush]) image := by
  apply pictures.recordAll same (Nat.le_refl _)
  intro _ screen before cells n
  rw [Screen.cellAt, Screen.cells_lineBreak]
  exact cells n

/-- **A text is printed** by the operations that were recorded between two terminals. They paint no
row above that of the cursor, and on a screen that is blank from there on they leave the text,
wrapped at the width of the terminal, and nothing else. The cursor is left in the row below. -/
structure Prints (start last : Script) (shown : List Char) (recorded : List Operation) : Prop where
  written : last.operations.toList = start.operations.toList ++ recorded
  stay : ∀ operation ∈ recorded, operation.StaysBelow start.cursor.row.toNat
  width : last.width = start.width
  below : last.cursor.row.toNat =
    start.cursor.row.toNat + shown.length / start.width.toNat + 1
  replayed : ∀ screen : Screen, screen.cursor = start.cursor →
    (screen.replay start.width recorded).cursor = last.cursor ∧
      ((∀ row col, start.cursor.row.toNat ≤ row → col < start.width.toNat →
          screen.cells row col = ' ') →
        ∀ n, (screen.replay start.width recorded).cellAt start.cursor.row start.width n =
          shown[n]?.getD ' ')

end Script

/-- A line has no places above its first row. -/
theorem Geometry.firstRow_le_cursorPosition (geometry : Geometry) (cursor promptLength : Nat) :
    geometry.firstRow.toNat ≤ (geometry.cursorPosition cursor promptLength).row.toNat := by
  have bounded : geometry.firstRow.toNat < 65536 := geometry.firstRow.toNat_lt
  rw [toNat_row_cursorPosition]
  exact Nat.le_min.mpr ⟨Nat.le_add_right _ _, by omega⟩

/-- No paint moves the cursor above the first row of the line. -/
theorem Editor.staysBelow_operations {editor : Editor} {geometry : Geometry}
    (located : editor.geometry = some geometry) (changed : Editing.Paint) :
    ∀ operation ∈ editor.operations changed, operation.StaysBelow geometry.firstRow.toNat := by
  have placed := geometry.firstRow_le_cursorPosition editor.line.cursor editor.line.promptLength
  cases changed with
  | nothing => simp [operations, located]
  | cursor => simp [operations, located, Operation.StaysBelow, Operation.target?, placed]
  | line => simp [operations, located, Operation.StaysBelow, Operation.target?, placed]

namespace Console
variable {prompt : String} {start console : Console Script} {keys : List Key}

/-- In all states of a session the record keeps below the row in which the session began. -/
theorem Attends.keepsBelow (attends : Attends Script.terminal prompt start keys console)
    (steady : start.stage.terminal.Steady)
    (plain : Editor.Plain { start.editor with line := Line.start prompt }) :
    start.stage.terminal.KeepsBelow console.stage.terminal := by
  refine (attends.invariant (fun _ console => start.stage.terminal.KeepsBelow
    console.stage.terminal) steady.sound ?_ ?_).1
  · have located : (start.starts prompt).editor.geometry = some _ := rfl
    have painted := Editor.staysBelow_operations located .line
    exact ((Script.KeepsBelow.refl _).recordAll painted).flush
  · intro keys key console earlier _ kept
    obtain ⟨geometry, displays, -⟩ := earlier.displays steady plain
    have read : start.stage.terminal.KeepsBelow console.reads.stage.terminal := kept
    have painted := Editor.staysBelow_operations (displays.located_hears key)
      (console.editor.handled key).2
    rw [displays.firstRow] at painted
    rw [displays.responds_eq key]
    exact (read.recordAll painted).flush

/-- Of an image on blank cells, one sees the prompt and the text. -/
theorem getD_image (editor : Editor) (geometry : Geometry) (n : Nat) :
    (image editor geometry)[n]?.getD ' ' =
      (editor.line.prompt.toList ++ editor.line.text)[n]?.getD ' ' := by
  rw [image, Editing.toList_paintedText]
  by_cases inside : n < (editor.line.prompt.toList ++ editor.line.text).length
  · rw [List.getElem?_append_left inside]
  · have beyond := Nat.le_of_not_lt inside
    rw [List.getElem?_append_right beyond, List.getElem?_getD_replicate_default_eq,
      List.getElem?_eq_none beyond]
    rfl

/-- A session that enters a line prints it. -/
theorem Attends.prints (attends : Attends Script.terminal prompt start keys console)
    (steady : start.stage.terminal.Steady)
    (plain : Editor.Plain { start.editor with line := Line.start prompt })
    (fits : ∀ geometry, console.editor.geometry = some geometry →
      geometry.firstRow.toNat + geometry.maxPrinted / geometry.width.toNat < 65535) :
    ∃ recorded, start.stage.terminal.Prints console.commits.stage.terminal
      (prompt.toList ++ console.editor.line.text) recorded := by
  obtain ⟨geometry, displays, -⟩ := attends.displays steady plain
  have placed := geometry.firstRow_le_cursorPosition console.editor.line.length
    console.editor.line.promptLength
  rw [displays.firstRow] at placed
  have pictures := displays.pictures.lineBreak displays.columns (geometry.cursorPosition
    console.editor.line.length console.editor.line.promptLength)
  have keeps := (attends.keepsBelow steady plain).lineBreak placed
  rw [← commits_terminal displays.located] at pictures keeps
  obtain ⟨recorded, written, replayed⟩ := pictures
  obtain ⟨below, same, stay⟩ := keeps
  obtain rfl : recorded = below := List.append_cancel_left (written.symm.trans same)
  -- No row of the longest paint is too far down, so none of the line is.
  have rows : ∀ n ≤ geometry.maxPrinted, start.stage.terminal.cursor.row.toNat +
      n / start.stage.terminal.width.toNat < 65535 := by
    intro n covered
    have last := fits geometry displays.located
    rw [displays.firstRow, displays.width] at last
    exact lt_of_le_of_lt (Nat.add_le_add_left (Nat.div_le_div_right covered) _) last
  rw [← displays.prompt]
  refine ⟨recorded, written, stay, ?width, ?below, ?replayed⟩
  case width => exact console.shows_commits.width_eq.trans displays.columns
  case below =>
    rw [Editing.length_prompt_append_text]
    exact (attends.cursor_commits steady plain (rows _ displays.covered)).2
  case replayed =>
    intro screen here
    obtain ⟨cursor, cells⟩ := replayed screen here
    refine ⟨cursor, ?_⟩
    intro blank n
    have empty : screen.cellAt start.stage.terminal.cursor.row start.stage.terminal.width n = ' ' :=
      blank _ _ (Nat.le_add_right _ _) (Nat.mod_lt _ (Screen.toNat_pos steady.columns))
    rw [← getD_image console.editor geometry, ← empty]
    apply cells
    intro m inside
    rw [length_image displays.covered] at inside
    exact (rows m inside.le).le

end Console

/-- **An entry of a transcript**: a line that was read after a prompt, with the console that its
session started from and the one that it left. -/
structure Entry where
  start : Console Script
  prompt : String
  text : String
  last : Console Script

namespace Entry

/-- The row in which the session of the entry began. -/
def firstRow (entry : Entry) : Nat := entry.start.stage.terminal.cursor.row.toNat

/-- What the entry is to leave on the screen. -/
def shown (entry : Entry) : List Char := entry.prompt.toList ++ entry.text.toList

/-- **The entry was read** on a steady terminal, with a prompt and a history without line breaks,
and all that was painted in its session is above the last row that can be addressed. -/
structure WasRead (entry : Entry) : Prop where
  steady : entry.start.stage.terminal.Steady
  prompt : '\n' ∉ entry.prompt.toList
  history : ∀ text ∈ entry.start.editor.history.entries, '\n' ∉ text.toList
  read : ∃ budget, entry.start.perform Script.terminal (Editing.readLine budget entry.prompt) =
    (.ok (some (.line entry.text)), entry.last)
  fits : ∀ geometry, entry.last.editor.geometry = some geometry →
    geometry.firstRow.toNat + geometry.maxPrinted / geometry.width.toNat < 65535

variable {entry : Entry}

/-- A line that was read started from a plain editor. -/
theorem WasRead.plain (wasRead : entry.WasRead) :
    Editor.Plain { entry.start.editor with line := Line.start entry.prompt } :=
  ⟨wasRead.prompt, List.not_mem_nil, wasRead.history⟩

/-- The line of an entry is that of the last state of its session. -/
theorem WasRead.attends (wasRead : entry.WasRead) :
    ∃ keys console, Console.Attends Script.terminal entry.prompt entry.start keys console ∧
      console.editor.line.text = entry.text.toList ∧ console.commits = entry.last := by
  obtain ⟨budget, read⟩ := wasRead.read
  obtain ⟨keys, console, attends, -, content, last⟩ :=
    (Console.concludes_readLine wasRead.steady.sound read).of_line
  refine ⟨keys, console, attends, ?_, last⟩
  rw [← content, Line.content, String.toList_ofList]

/-- **Every entry that was read is printed.** -/
theorem WasRead.prints (wasRead : entry.WasRead) :
    ∃ recorded, entry.start.stage.terminal.Prints entry.last.stage.terminal entry.shown recorded := by
  obtain ⟨keys, console, attends, text, last⟩ := wasRead.attends
  have fits := wasRead.fits
  rw [← last, Console.commits_editor] at fits
  rw [← last, shown, ← text]
  exact attends.prints wasRead.steady wasRead.plain fits

/-- The session of an entry takes its line to start where the cursor is, and wraps it at the width
of the terminal. -/
theorem WasRead.geometry (wasRead : entry.WasRead) : ∃ geometry,
    entry.last.editor.geometry = some geometry ∧
      geometry.firstRow = entry.start.stage.terminal.cursor.row ∧
      geometry.width = entry.start.stage.terminal.width := by
  obtain ⟨keys, console, attends, -, last⟩ := wasRead.attends
  obtain ⟨geometry, displays, -⟩ := attends.displays wasRead.steady wasRead.plain
  refine ⟨geometry, ?_, displays.firstRow, displays.width⟩
  rw [← last, Console.commits_editor]
  exact displays.located

/-- After an entry was read, the terminal is steady still. -/
theorem WasRead.steady_last (wasRead : entry.WasRead) : entry.last.stage.terminal.Steady := by
  obtain ⟨keys, console, attends, -, last⟩ := wasRead.attends
  rw [← last]
  exact console.shows_commits.steady (attends.steady wasRead.steady)

/-- No line break comes into the history with an entry. -/
theorem WasRead.history_last (wasRead : entry.WasRead) :
    ∀ text ∈ entry.last.editor.history.entries, '\n' ∉ text.toList := by
  obtain ⟨keys, console, attends, -, last⟩ := wasRead.attends
  obtain ⟨geometry, displays, -⟩ := attends.displays wasRead.steady wasRead.plain
  rw [← last, Console.commits_editor]
  intro text member
  dsimp only at member
  split at member
  · rcases History.mem_entries_add member with old | rfl
    · exact displays.plain.entries text old
    · rw [Line.content, String.toList_ofList]
      exact displays.plain.text
  · exact displays.plain.entries text member

end Entry

/-- The second terminal has the record, the cursor and the width of the first one. -/
structure Script.Resumes (before after : Script) : Prop where
  operations : after.operations = before.operations
  cursor : after.cursor = before.cursor
  width : after.width = before.width

/-- **A transcript** from one terminal to another: entries that were read one after the other.
Between two sessions the editor and what is left of the script may change. -/
inductive Transcript : Script → List Entry → Script → Prop where
  | nil (script : Script) : Transcript script [] script
  | cons {script last : Script} {entry : Entry} {later : List Entry} (wasRead : entry.WasRead)
      (resumes : script.Resumes entry.start.stage.terminal)
      (rest : Transcript entry.last.stage.terminal later last) :
      Transcript script (entry :: later) last

/-- **What entries leave on a screen** of a given width, from a row on: their prompts and texts in
their places, blanks in all other cells, and the rows above as they were before. -/
structure Leaves (entries : List Entry) (width row : Nat) (before after : Screen) : Prop where
  shown : ∀ entry ∈ entries, ∀ n, ∀ inside : n < entry.shown.length,
    after.cells (entry.firstRow + n / width) (n % width) = entry.shown[n]
  blank : ∀ below, row ≤ below → ∀ col < width,
    (∀ entry ∈ entries, ∀ n < entry.shown.length,
      ¬ (below = entry.firstRow + n / width ∧ col = n % width)) → after.cells below col = ' '
  above : ∀ above < row, ∀ col, after.cells above col = before.cells above col

section Step
variable {entry : Entry} {width row next : Nat} {before middle after : Screen}
  (cells : ∀ n, middle.cells (row + n / width) (n % width) = entry.shown[n]?.getD ' ')
  (ends : next = row + entry.shown.length / width + 1)
include cells ends

/-- Below an entry the screen is blank. -/
theorem cells_below_entry {below col : Nat} (under : next ≤ below) (inside : col < width) :
    middle.cells below col = ' ' := by
  have lower : row < next := ends ▸ Nat.lt_succ_of_le (Nat.le_add_right _ _)
  obtain ⟨n, rfl, rfl⟩ := Screen.exists_offset (lower.le.trans under) inside
  have beyond : entry.shown.length ≤ n := by
    by_contra short
    have rows : n / width ≤ entry.shown.length / width := Nat.div_le_div_right (by omega)
    omega
  rw [cells, List.getElem?_eq_none beyond]
  rfl

/-- An entry stays on the screen when others are left below it. -/
theorem Leaves.cons {later : List Entry} (starts : entry.firstRow = row)
    (spared : ∀ above < row, ∀ col, middle.cells above col = before.cells above col)
    (leaves : Leaves later width next middle after) :
    Leaves (entry :: later) width row before after where
  shown := by
    refine List.forall_mem_cons.mpr ⟨?_, leaves.shown⟩
    intro n inside
    have rows : n / width ≤ entry.shown.length / width := Nat.div_le_div_right inside.le
    rw [starts, leaves.above _ (by omega), cells, List.getElem?_eq_getElem inside]
    rfl
  blank := by
    intro below under col inside free
    obtain ⟨freeOfEntry, freeOfLater⟩ := List.forall_mem_cons.mp free
    by_cases lower : next ≤ below
    · exact leaves.blank below lower col inside freeOfLater
    rw [leaves.above below (by omega)]
    obtain ⟨n, rfl, rfl⟩ := Screen.exists_offset under inside
    have beyond : entry.shown.length ≤ n := by
      by_contra short
      exact freeOfEntry n (by omega) ⟨by rw [starts], rfl⟩
    rw [cells, List.getElem?_eq_none beyond]
    rfl
  above := by
    intro above higher col
    have lower : row < next := ends ▸ Nat.lt_succ_of_le (Nat.le_add_right _ _)
    rw [leaves.above above (higher.trans lower), spared above higher]

end Step

namespace Transcript
variable {script last : Script} {entries : List Entry}

/-- The sessions of a transcript begin where the cursor is, or further down. -/
theorem row_le (transcript : Transcript script entries last) :
    ∀ entry ∈ entries, script.cursor.row.toNat ≤ entry.firstRow := by
  induction transcript with
  | nil script => exact List.forall_mem_nil _
  | @cons script last entry later wasRead resumes rest ih =>
    obtain ⟨recorded, prints⟩ := wasRead.prints
    have begins : entry.firstRow = script.cursor.row.toNat :=
      congrArg (UInt16.toNat ∘ Position.row) resumes.cursor
    have next : entry.firstRow < entry.last.stage.terminal.cursor.row.toNat :=
      prints.below ▸ Nat.lt_succ_of_le (Nat.le_add_right _ _)
    refine List.forall_mem_cons.mpr ⟨begins.ge, ?_⟩
    intro other member
    exact begins.ge.trans (next.le.trans (ih other member))

/-- Every session has its line start where it begins, and wrap at the width of the terminal. -/
theorem geometry (transcript : Transcript script entries last) :
    ∀ entry ∈ entries, ∃ geometry, entry.last.editor.geometry = some geometry ∧
      geometry.firstRow.toNat = entry.firstRow ∧ geometry.width = script.width := by
  induction transcript with
  | nil script => exact List.forall_mem_nil _
  | @cons script last entry later wasRead resumes rest ih =>
    obtain ⟨recorded, prints⟩ := wasRead.prints
    obtain ⟨geometry, located, firstRow, width⟩ := wasRead.geometry
    rw [prints.width, resumes.width] at ih
    refine List.forall_mem_cons.mpr ⟨?_, ih⟩
    exact ⟨geometry, located, congrArg UInt16.toNat firstRow, width.trans resumes.width⟩

/-- A session begins in the row below the line that was entered before. -/
theorem isChain (transcript : Transcript script entries last) :
    entries.IsChain fun first second => second.firstRow =
      first.firstRow + first.shown.length / script.width.toNat + 1 := by
  induction transcript with
  | nil script => exact .nil
  | @cons script last entry later wasRead resumes rest ih =>
    obtain ⟨recorded, prints⟩ := wasRead.prints
    rw [prints.width, resumes.width] at ih
    cases rest with
    | nil => exact .singleton entry
    | @cons _ _ next later wasNext resumed rest =>
      refine .cons_cons ?_ ih
      have begins : next.firstRow = entry.last.stage.terminal.cursor.row.toNat :=
        congrArg (UInt16.toNat ∘ Position.row) resumed.cursor
      rw [begins, prints.below, resumes.width]
      rfl

/-- The rows of a line are above all rows of those that were entered after it. -/
theorem pairwise (transcript : Transcript script entries last) :
    entries.Pairwise fun first second =>
      first.firstRow + first.shown.length / script.width.toNat < second.firstRow := by
  induction transcript with
  | nil script => exact .nil
  | @cons script last entry later wasRead resumes rest ih =>
    obtain ⟨recorded, prints⟩ := wasRead.prints
    rw [prints.width, resumes.width] at ih
    refine .cons ?_ ih
    intro other member
    have further := rest.row_le other member
    rw [prints.below, resumes.width] at further
    exact further

/-- **The record of a transcript leaves its entries** on a screen that was blank from the cursor on.
-/
theorem leaves (transcript : Transcript script entries last) :
    ∃ recorded, last.operations.toList = script.operations.toList ++ recorded ∧
      ∀ screen : Screen, screen.cursor = script.cursor →
        (∀ row col, script.cursor.row.toNat ≤ row → col < script.width.toNat →
          screen.cells row col = ' ') →
        Leaves entries script.width.toNat script.cursor.row.toNat screen
          (screen.replay script.width recorded) := by
  induction transcript with
  | nil script =>
    refine ⟨[], (List.append_nil _).symm, ?_⟩
    intro screen here blank
    exact ⟨by simp, fun below under col inside _ => blank below col under inside, fun _ _ _ => rfl⟩
  | @cons script last entry later wasRead resumes rest ih =>
    obtain ⟨recorded, prints⟩ := wasRead.prints
    obtain ⟨further, continued, leaves⟩ := ih
    refine ⟨recorded ++ further, ?_, ?_⟩
    · rw [continued, prints.written, resumes.operations, List.append_assoc]
    intro screen here blank
    obtain ⟨cursor, cells⟩ := prints.replayed screen (here.trans resumes.cursor.symm)
    have ends := prints.below
    have stay := prints.stay
    rw [prints.width, resumes.width] at leaves
    rw [resumes.width, resumes.cursor] at cells ends
    rw [resumes.width] at cursor
    rw [resumes.cursor] at stay
    have printed := cells blank
    have spares := Screen.spares_replay (congrArg (UInt16.toNat ∘ Position.row) here).ge
      script.width stay
    rw [Screen.replay_append]
    exact Leaves.cons printed ends (congrArg (UInt16.toNat ∘ Position.row) resumes.cursor)
      spares.cells (leaves _ cursor fun below col => cells_below_entry printed ends)

end Transcript

/-- **What is left of many lines.** Lines are entered one after the other on a steady terminal, with
prompts and histories without line breaks, and as long as the rows that are painted can be addressed
and are not the last one. Then every session takes its line to start in the row after that of the
end of the line before, so that no two of them have a row in common. The record of all sessions,
replayed on a blank screen, shows every prompt followed by the line that was entered, from the start
of the first row of its session on, wherever the cursor was when the line was entered. All other
cells are blank. -/
theorem transcript_shows {script last : Script} {entries : List Entry}
    (transcript : Transcript script entries last) :
    (∀ entry ∈ entries, ∃ geometry, entry.last.editor.geometry = some geometry ∧
      geometry.firstRow.toNat = entry.firstRow ∧ geometry.width = script.width) ∧
    entries.IsChain (fun first second => second.firstRow =
      first.firstRow + first.shown.length / script.width.toNat + 1) ∧
    entries.Pairwise (fun first second =>
      first.firstRow + first.shown.length / script.width.toNat < second.firstRow) ∧
    ∃ recorded, last.operations.toList = script.operations.toList ++ recorded ∧
      ∀ screen : Screen, screen.cursor = script.cursor →
        (∀ row col, screen.cells row col = ' ') →
        let width := script.width.toNat
        let cells := (screen.replay script.width recorded).cells
        (∀ entry ∈ entries, ∀ n, ∀ inside : n < entry.shown.length,
          cells (entry.firstRow + n / width) (n % width) = entry.shown[n]) ∧
        ∀ row, ∀ col < width,
          (∀ entry ∈ entries, ∀ n < entry.shown.length,
            ¬ (row = entry.firstRow + n / width ∧ col = n % width)) → cells row col = ' ' := by
  refine ⟨transcript.geometry, transcript.isChain, transcript.pairwise, ?_⟩
  obtain ⟨recorded, written, leaves⟩ := transcript.leaves
  refine ⟨recorded, written, ?_⟩
  intro screen here blank width cells
  have left := leaves screen here fun row col _ _ => blank row col
  refine ⟨left.shown, ?_⟩
  intro row col inside free
  by_cases below : script.cursor.row.toNat ≤ row
  · exact left.blank row below col inside free
  · exact (left.above row (by omega) col).trans (blank row col)

/-- Two lines on three columns. The first one takes two rows, and is entered from its start. -/
theorem transcript_shows_wrapped :
    let script : Script :=
      { inputs := Script.typing "ab" ++ [.key (.ofCode .home), .key (.ofCode .enter)] ++
          Script.typing "c" ++ [.key (.ofCode .enter)]
        width := 3
        cursor := { col := 0, row := 7 } }
    let first : Console Script := { editor := .standard, stage := { terminal := script } }
    let second := (first.perform Script.terminal (Editing.readLine 9 "> ")).2
    let last := (second.perform Script.terminal (Editing.readLine 9 "> ")).2
    let entries : List Entry := [⟨first, "> ", "ab", second⟩, ⟨second, "> ", "c", last⟩]
    Transcript script entries last.stage.terminal ∧ second.stage.terminal.cursor.row.toNat = 9 := by
  intro script first second last entries
  have resultFirst : (first.perform Script.terminal (Editing.readLine 9 "> ")).1 =
      .ok (some (.line "ab")) := by
    decide +kernel
  have resultSecond : (second.perform Script.terminal (Editing.readLine 9 "> ")).1 =
      .ok (some (.line "c")) := by
    decide +kernel
  have readFirst : first.perform Script.terminal (Editing.readLine 9 "> ") =
      (.ok (some (.line "ab")), second) := by
    rw [← resultFirst]
  have readSecond : second.perform Script.terminal (Editing.readLine 9 "> ") =
      (.ok (some (.line "c")), last) := by
    rw [← resultSecond]
  have located : second.editor.geometry = some ⟨7, 3, 4⟩ := by decide +kernel
  have relocated : last.editor.geometry = some ⟨9, 3, 3⟩ := by decide +kernel
  clear_value last second
  have steady : script.Steady := ⟨rfl, by decide, by simp [script, Script.typing]⟩
  have prompt : '\n' ∉ "> ".toList := by decide
  have one : Entry.WasRead ⟨first, "> ", "ab", second⟩ := {
    steady := steady
    prompt := prompt
    history := List.forall_mem_nil _
    read := ⟨9, readFirst⟩
    fits := by simp [located] }
  have two : Entry.WasRead ⟨second, "> ", "c", last⟩ := {
    steady := one.steady_last
    prompt := prompt
    history := one.history_last
    read := ⟨9, readSecond⟩
    fits := by simp [relocated] }
  have transcript : Transcript script entries last.stage.terminal :=
    .cons one ⟨rfl, rfl, rfl⟩ (.cons two ⟨rfl, rfl, rfl⟩ (.nil _))
  obtain ⟨-, chain, -⟩ := transcript_shows transcript
  have begins := (List.isChain_cons_cons.mp chain).1
  refine ⟨transcript, begins.trans ?_⟩
  simp [Entry.firstRow, Entry.shown, first, script]

end PromptLine
