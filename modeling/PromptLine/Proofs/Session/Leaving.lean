import PromptLine.Proofs.Geometry.Wrapping
import PromptLine.Proofs.Session.Conclusion
import PromptLine.Proofs.Session.Cursor
import PromptLine.Proofs.Session.Display

/-!
# Where a session leaves the cursor

Both ways in which a session comes to an outcome end with a line break, and that takes the cursor to
the start of the row below the one that it is in (`PromptLine.Script.cursor_recordAll_lineBreak`).

When a line was entered, the cursor is put behind its last character first, so whatever is written
next is below the line (`PromptLine.Console.Attends.cursor_commits`). When the input ended, the
cursor is where the cursor of the line was. If that was in a row above the last one of the line, the
row below is still taken by the line, and whatever is written next is written over it
(`PromptLine.Console.endOfInput_cursor`).
-/

namespace PromptLine

/-- A line break takes the cursor to the start of the next row. -/
theorem Script.cursor_recordAll_lineBreak (script : Script) {firstRow width : UInt16} {offset : Nat}
    (there : script.cursor = Screen.place firstRow width offset)
    (fits : firstRow.toNat + offset / width.toNat < 65535) :
    let cursor := (script.recordAll [.writeLine "", .flush]).cursor
    cursor.col = 0 ∧ cursor.row.toNat = firstRow.toNat + offset / width.toNat + 1 := by
  intro cursor
  have below : cursor = { col := 0, row := succ script.cursor.row } := rfl
  rw [below, there]
  refine ⟨rfl, ?_⟩
  rw [succ, toNat_ofNatClamp, Screen.place_row]
  omega

namespace Console

/-- Entering a text into the history leaves the terminal alone. -/
theorem remembers_terminal (text : String) (console : Console Script) :
    (console.remembers text).stage.terminal = console.stage.terminal := by
  unfold remembers
  cases console.editor.history.evictedBy? text with
  | none => rfl
  | some entry => rfl

/-- What is shown when a line was entered: the cursor goes behind the line, and to the next row. -/
theorem commits_terminal {console : Console Script} {geometry : Geometry}
    (located : console.editor.geometry = some geometry) :
    let line := console.editor.line
    console.commits.stage.terminal = console.stage.terminal.recordAll
      [.move (geometry.cursorPosition line.length line.promptLength), .writeLine "", .flush] := by
  intro line
  have leaves : console.leaves.stage.terminal = console.stage.terminal.recordAll
      [.move (geometry.cursorPosition line.length line.promptLength), .writeLine "", .flush] := by
    simp only [Console.leaves, paints, Editor.operations, located]
    rfl
  unfold commits
  dsimp only
  split
  · exact (remembers_terminal _ _).trans leaves
  · exact leaves

section Steady
variable {prompt : String} {start console : Console Script} {keys : List Key}
  (attends : Attends Script.terminal prompt start keys console)
  (steady : start.stage.terminal.Steady)
  (plain : Editor.Plain { start.editor with line := Line.start prompt })
include attends steady plain

/-- In a state of a session the cursor is in the place with the offset of the line's cursor. -/
theorem Attends.cursor_eq_place (fits : start.stage.terminal.cursor.row.toNat +
      console.editor.line.cursorOffset / start.stage.terminal.width.toNat ≤ 65535) :
    console.stage.terminal.cursor = Screen.place start.stage.terminal.cursor.row
      start.stage.terminal.width console.editor.line.cursorOffset := by
  obtain ⟨geometry, inPlace⟩ := attends.inPlace steady.sound
  obtain ⟨displayed, displays, -⟩ := attends.displays steady plain
  obtain rfl : geometry = displayed :=
    Option.some_inj.mp (inPlace.located.symm.trans displays.located)
  rw [← displays.firstRow, ← displays.width] at fits ⊢
  rw [inPlace.cursor]
  exact Geometry.cursorPosition_eq_place fits (displays.width ▸ steady.columns)

/-- **A line that was entered** leaves the cursor at the start of the row below its last one. -/
theorem Attends.cursor_commits (fits : start.stage.terminal.cursor.row.toNat +
      console.editor.line.printedLength / start.stage.terminal.width.toNat < 65535) :
    let cursor := console.commits.stage.terminal.cursor
    cursor.col = 0 ∧ cursor.row.toNat = start.stage.terminal.cursor.row.toNat +
      console.editor.line.printedLength / start.stage.terminal.width.toNat + 1 := by
  obtain ⟨geometry, displays, -⟩ := attends.displays steady plain
  have printed : console.editor.line.printedLength =
      console.editor.line.length + console.editor.line.promptLength := Nat.add_comm _ _
  rw [← displays.firstRow, ← displays.width, printed] at fits ⊢
  rw [commits_terminal displays.located, Script.recordAll_cons]
  refine Script.cursor_recordAll_lineBreak _ ?_ fits
  exact Geometry.cursorPosition_eq_place fits.le (displays.width ▸ steady.columns)

end Steady

/-- **Where the end of the input leaves the cursor.** On a steady terminal, with a prompt and a
history without line breaks, a session that ends with the input ends in a state in which the line
was not entered and a read found nothing more. If the row of the line's cursor there is not the last
one that can be addressed, the cursor of the terminal is left at the start of the row below it. So
it is below all of the prompt and the text just if the line's cursor was in the row of the last
character, or further down. -/
theorem endOfInput_cursor (start : Console Script) (prompt : String)
    (steady : start.stage.terminal.Steady) (plain : '\n' ∉ prompt.toList)
    (entries : ∀ entry ∈ start.editor.history.entries, '\n' ∉ entry.toList)
    (budget : Nat) (last : Console Script)
    (ended : start.perform Script.terminal (Editing.readLine budget prompt) =
      (.ok (some .endOfInput), last)) :
    ∃ keys console, Attends Script.terminal prompt start keys console ∧
      ¬ console.editor.line.finished ∧
      console.perform Script.terminal (Editing.call (.readKey true)) = (.ok none, console.reads) ∧
      console.reads.abandons = last ∧
      let firstRow := start.stage.terminal.cursor.row.toNat
      let width := start.stage.terminal.width.toNat
      let line := console.editor.line
      let cursor := last.stage.terminal.cursor
      firstRow + line.cursorOffset / width < 65535 →
        cursor.col = 0 ∧ cursor.row.toNat = firstRow + line.cursorOffset / width + 1 ∧
        ((∀ n < line.printedLength, firstRow + n / width < cursor.row.toNat) ↔
          (line.printedLength - 1) / width ≤ line.cursorOffset / width) := by
  have unbroken : Editor.Plain { start.editor with line := Line.start prompt } :=
    ⟨plain, List.not_mem_nil, entries⟩
  obtain ⟨keys, console, attends, goesOn, delivered, rfl⟩ :=
    (concludes_readLine steady.sound ended).of_endOfInput
  have heard := console.perform_readKey
  rw [delivered] at heard
  refine ⟨keys, console, attends, goesOn, heard, rfl, ?_⟩
  intro firstRow width line cursor fits
  have there := attends.cursor_eq_place steady unbroken fits.le
  have below : cursor.col = 0 ∧ cursor.row.toNat = firstRow + line.cursorOffset / width + 1 :=
    Script.cursor_recordAll_lineBreak console.reads.stage.terminal there fits
  refine ⟨below.1, below.2, ?_⟩
  rw [below.2]
  constructor
  · intro covers
    by_cases empty : line.printedLength = 0
    · rw [empty, Nat.zero_sub, Nat.zero_div]
      exact Nat.zero_le _
    · have final := covers (line.printedLength - 1) (by omega)
      omega
  · intro final n printed
    have before : n / width ≤ (line.printedLength - 1) / width := Nat.div_le_div_right (by omega)
    omega

/-- Input that ends with the cursor behind a character on three columns. The line fills its row, so
the row of the cursor is the one below, and the cursor of the terminal is left in the row below
that. -/
theorem endOfInput_cursor_typed :
    let script : Script := { inputs := Script.typing "a", width := 3, cursor := { col := 2, row := 7 } }
    let start : Console Script := { editor := .standard, stage := { terminal := script } }
    let last := (start.perform Script.terminal (Editing.readLine 2 "> ")).2
    script.Steady ∧ '\n' ∉ "> ".toList ∧
      (∀ entry ∈ start.editor.history.entries, '\n' ∉ entry.toList) ∧
      start.perform Script.terminal (Editing.readLine 2 "> ") = (.ok (some .endOfInput), last) ∧
      ∃ console, Attends Script.terminal "> " start [.ofChar 'a'] console ∧
        ¬ console.editor.line.finished ∧ console.reads.abandons = last ∧
        console.editor.line.printedLength = 3 ∧ console.editor.line.cursorOffset = 3 ∧
        7 + 3 / 3 < 65535 ∧ last.stage.terminal.cursor.col = 0 ∧
        last.stage.terminal.cursor.row.toNat = 7 + 3 / 3 + 1 ∧
        ((∀ n < 3, 7 + n / 3 < last.stage.terminal.cursor.row.toNat) ↔ (3 - 1) / 3 ≤ 3 / 3) := by
  intro script start last
  have steady : script.Steady := ⟨rfl, by decide, by simp [script, Script.typing]⟩
  have plain : '\n' ∉ "> ".toList := by decide
  have entries : ∀ entry ∈ start.editor.history.entries, '\n' ∉ entry.toList :=
    List.forall_mem_nil _
  have result : (start.perform Script.terminal (Editing.readLine 2 "> ")).1 =
      .ok (some .endOfInput) := by
    decide +kernel
  have ended : start.perform Script.terminal (Editing.readLine 2 "> ") =
      (.ok (some .endOfInput), last) := by
    rw [← result]
  obtain ⟨keys, console, attends, goesOn, heard, abandoned, below⟩ :=
    endOfInput_cursor start "> " steady plain entries 2 last ended
  -- The state in which the input ends is the one after the only key of the script.
  let reached := start.pressed "> " [.ofChar 'a']
  have typed : Attends Script.terminal "> " start [.ofChar 'a'] reached :=
    (Attends.pressed "> " steady.sound (List.append_nil _).symm).1
  have silent : (reached.perform Script.terminal (Editing.call (.readKey true))).1 = .ok none := by
    decide +kernel
  have all : keys = [.ofChar 'a'] :=
    (typed.prefix_of_silent (fun key => by simp [silent]) attends).eq_of_length_le
      (attends.prefix_of_silent (fun key => by simp [heard]) typed).length_le
  subst all
  obtain rfl : console = reached := attends.unique typed
  have printed : reached.editor.line.printedLength = 3 := by decide +kernel
  have offset : reached.editor.line.cursorOffset = 3 := by decide +kernel
  have row : start.stage.terminal.cursor.row.toNat = 7 := rfl
  have columns : start.stage.terminal.width.toNat = 3 := rfl
  dsimp only at below
  rw [printed, offset, row, columns] at below
  obtain ⟨col, row, covers⟩ := below (by decide)
  exact ⟨steady, plain, entries, ended, reached, attends, goesOn, abandoned, printed, offset,
    by decide, col, row, covers⟩

/-- On two columns, with the cursor back at the start of a line of three characters, the end of the
input leaves the cursor in the cell of the last one. -/
theorem endOfInput_cursor_inside :
    let script : Script :=
      { inputs := Script.typing "abc" ++ [.key (.ofCode .home)], width := 2 }
    let start : Console Script := { editor := .standard, stage := { terminal := script } }
    let last := (start.perform Script.terminal (Editing.readLine 5 "")).2
    let blank : Screen := { cells := fun _ _ => ' ', cursor := script.cursor }
    script.Steady ∧ start.editor.history.entries = [] ∧
      start.perform Script.terminal (Editing.readLine 5 "") = (.ok (some .endOfInput), last) ∧
      last.stage.terminal.cursor = { col := 0, row := 1 } ∧
      (blank.replay 2 last.stage.terminal.operations.toList).cells 1 0 = 'c' := by
  intro script start last blank
  have result : (start.perform Script.terminal (Editing.readLine 5 "")).1 =
      .ok (some .endOfInput) := by
    decide +kernel
  have cursor : last.stage.terminal.cursor = { col := 0, row := 1 } := by decide +kernel
  have cell : (blank.replay 2 last.stage.terminal.operations.toList).cells 1 0 = 'c' := by
    decide +kernel
  have ended : start.perform Script.terminal (Editing.readLine 5 "") =
      (.ok (some .endOfInput), last) := by
    rw [← result]
  exact ⟨⟨rfl, by decide, by simp [script, Script.typing]⟩, rfl, ended, cursor, cell⟩

end Console

end PromptLine
