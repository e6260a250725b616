import Mathlib.Order.Bounds.Basic
import PromptLine.Proofs.Editor.Contents
import PromptLine.Proofs.Editor.Painted
import PromptLine.Proofs.Script.Screen
import PromptLine.Proofs.Session.Attending

/-!
# What a session shows

A paint covers at least what the longest paint before it covered, so a screen shows nothing of an
older text. `PromptLine.Script.Pictures` says what the record of a terminal shows of an image, and is
kept by every paint that is not shorter; `PromptLine.Console.Displays` adds what has to be known of
the editor for that, and is kept by every key. The states of a session all display their line
(`PromptLine.Console.session_displays`).
-/

namespace PromptLine

/-- A plain editor paints no line breaks. -/
theorem Editor.Plain.paintedText {editor : Editor} (plain : editor.Plain) (padding : Nat) :
    '\n' ∉ (Editing.paintedText editor.line padding).toList := by
  rw [Editing.toList_paintedText]
  intro member
  rcases List.mem_append.mp member with shown | space
  · rcases List.mem_append.mp shown with inPrompt | inText
    · exact plain.prompt inPrompt
    · exact plain.text inText
  · cases (List.mem_replicate.mp space).2

/-- The geometry of a line after a paint of it. -/
def Geometry.reaching (line : Line) (geometry : Geometry) : Geometry :=
  { geometry with maxPrinted := max geometry.maxPrinted line.printedLength }

namespace Script

/-- **The record shows an image.** Whatever was on the screen when the first terminal was as it is,
the operations recorded since then show the image from the start of the row of the cursor on, if its
rows can be addressed, and leave all other cells of the line as they were. -/
def Pictures (start script : Script) (image : List Char) : Prop :=
  ∃ recorded, script.operations.toList = start.operations.toList ++ recorded ∧
    ∀ screen : Screen, screen.cursor = start.cursor →
      (screen.replay start.width recorded).cursor = script.cursor ∧
      ((∀ n < image.length, start.cursor.row.toNat + n / start.width.toNat ≤ 65535) → ∀ n,
        (screen.replay start.width recorded).cellAt start.cursor.row start.width n =
          image[n]?.getD (screen.cellAt start.cursor.row start.width n))

namespace Pictures
variable {start script : Script} {image : List Char}

theorem refl (start : Script) : start.Pictures start [] := by
  refine ⟨[], (List.append_nil _).symm, ?_⟩
  intro screen same
  exact ⟨same, fun _ n => rfl⟩

/-- Operations that turn the image that is there into another one, which is not shorter. -/
theorem recordAll (pictures : start.Pictures script image) (same : script.width = start.width)
    {next : List Char} {operations : List Operation} (longer : image.length ≤ next.length)
    (turns : (∀ n < next.length, start.cursor.row.toNat + n / start.width.toNat ≤ 65535) →
      ∀ (screen : Screen) (before : Nat → Char),
        (∀ n, screen.cellAt start.cursor.row start.width n = image[n]?.getD (before n)) →
        ∀ n, (screen.replay start.width operations).cellAt start.cursor.row start.width n =
          next[n]?.getD (before n)) :
    start.Pictures (script.recordAll operations) next := by
  obtain ⟨recorded, written, replayed⟩ := pictures
  refine ⟨recorded ++ operations, ?_, ?_⟩
  · rw [recordAll_operations, written, List.append_assoc]
  intro screen here
  obtain ⟨cursor, cells⟩ := replayed screen here
  rw [Screen.replay_append]
  constructor
  · rw [← same] at cursor ⊢
    exact Screen.cursor_replay script operations cursor
  · intro fits
    exact turns fits _ _ (cells fun n inside => fits n (Nat.lt_of_lt_of_le inside longer))

/-- A move leaves the image as it is. -/
theorem move (pictures : start.Pictures script image) (same : script.width = start.width)
    (position : Position) : start.Pictures (script.recordAll [.move position]) image :=
  pictures.recordAll same (Nat.le_refl _) fun _ _ _ cells => cells

/-- A flush leaves the image as it is. -/
theorem flush (pictures : start.Pictures script image) (same : script.width = start.width) :
    start.Pictures (script.recordAll [.flush]) image :=
  pictures.recordAll same (Nat.le_refl _) fun _ _ _ cells => cells

/-- A paint shows its text over an image that was there, if that is not longer. -/
theorem paint (pictures : start.Pictures script image) (same : script.width = start.width)
    (columns : start.width ≠ 0) {text : String} (plain : '\n' ∉ text.toList)
    (longer : image.length ≤ text.toList.length) (position : Position) :
    start.Pictures (script.recordAll
      [.move { col := 0, row := start.cursor.row }, .write text, .move position]) text.toList := by
  refine pictures.recordAll same longer ?_
  intro fits screen before cells n
  rw [Screen.cellAt_paint columns plain fits, cells]
  by_cases inside : n < text.toList.length
  · rw [List.getElem?_eq_getElem inside]
    rfl
  · have beyond : image.length ≤ n := by omega
    rw [List.getElem?_eq_none beyond]
    rfl

end Pictures

end Script

namespace Console

/-- What is painted of the line of an editor: prompt and text, and spaces up to the length of the
longest paint. -/
def image (editor : Editor) (geometry : Geometry) : List Char :=
  (Editing.paintedText editor.line (geometry.maxPrinted - editor.line.printedLength)).toList

/-- **The console displays its line.** The line is where the session began, wraps where the terminal
does, and has no line breaks, and the record shows it. -/
structure Displays (start : Console Script) (prompt : String) (console : Console Script)
    (geometry : Geometry) : Prop where
  located : console.editor.geometry = some geometry
  firstRow : geometry.firstRow = start.stage.terminal.cursor.row
  width : geometry.width = start.stage.terminal.width
  steady : console.stage.terminal.Steady
  columns : console.stage.terminal.width = start.stage.terminal.width
  prompt : console.editor.line.prompt = prompt
  plain : console.editor.Plain
  covered : console.editor.line.printedLength ≤ geometry.maxPrinted
  pictures : start.stage.terminal.Pictures console.stage.terminal (image console.editor geometry)

/-- The width is not looked at twice. -/
theorem fits_of_width_eq {console : Console Script} {geometry : Geometry}
    (located : console.editor.geometry = some geometry)
    (width : geometry.width = console.stage.terminal.width) : console.fits = console := by
  unfold fits
  rw [located]
  exact if_pos width.symm

/-- As far as the line goes, the image is its prompt and its text. -/
theorem getElem?_image_of_lt {editor : Editor} (geometry : Geometry) {n : Nat}
    (printed : n < editor.line.printedLength) :
    (image editor geometry)[n]? = (editor.line.prompt.toList ++ editor.line.text)[n]? := by
  rw [← Editing.length_prompt_append_text] at printed
  rw [image, Editing.toList_paintedText, List.getElem?_append_left printed]

/-- Beyond the line the image is blank, as far as a paint has been. -/
theorem getElem?_image_of_le {editor : Editor} {geometry : Geometry} {n : Nat}
    (beyond : editor.line.printedLength ≤ n) (covered : n < geometry.maxPrinted) :
    (image editor geometry)[n]? = some ' ' := by
  have padding : n - editor.line.printedLength <
      geometry.maxPrinted - editor.line.printedLength := by omega
  rw [← Editing.length_prompt_append_text] at beyond
  rw [image, Editing.toList_paintedText, List.getElem?_append_right beyond,
    Editing.length_prompt_append_text, List.getElem?_replicate_of_lt padding]

/-- The image is as long as the longest paint. -/
theorem length_image {editor : Editor} {geometry : Geometry}
    (covered : editor.line.printedLength ≤ geometry.maxPrinted) :
    (image editor geometry).length = geometry.maxPrinted := by
  rw [image, Editing.length_paintedText]
  omega

/-- A paint of the line writes it from the start of the first row. -/
theorem paints_line (console : Console Script) {geometry : Geometry}
    (located : console.editor.geometry = some geometry) :
    let line := console.editor.line
    let painted := geometry.reaching line
    (console.paints .line).editor = { console.editor with geometry := some painted } ∧
      (console.paints .line).stage.terminal = console.stage.terminal.recordAll
        [.move { col := 0, row := geometry.firstRow },
          .write (Editing.paintedText line (painted.maxPrinted - line.printedLength)),
          .move (geometry.cursorPosition line.cursor line.promptLength)] := by
  intro line painted
  have padding : painted.maxPrinted - line.printedLength =
      geometry.maxPrinted - line.printedLength := by
    change max geometry.maxPrinted line.printedLength - line.printedLength = _
    omega
  constructor
  · change console.editor.painted .line = _
    unfold Editor.painted
    rw [located]
    rfl
  · change console.stage.terminal.recordAll (console.editor.operations .line) = _
    unfold Editor.operations
    rw [located, padding]
    rfl

section Paint
variable {start : Script} (console : Console Script) {geometry : Geometry}
  (located : console.editor.geometry = some geometry)
  (firstRow : geometry.firstRow = start.cursor.row)
  (same : console.stage.terminal.width = start.width) (columns : start.width ≠ 0)
  (plain : console.editor.Plain)
include located firstRow same columns plain

/-- A paint of the line shows it, over any image that the longest paint covers. -/
theorem pictures_paints_line {before : List Char} (covered : before.length = geometry.maxPrinted)
    (pictures : start.Pictures console.stage.terminal before) :
    let printed := console.editor.line.printedLength
    let painted := { geometry with maxPrinted := max geometry.maxPrinted printed }
    (console.paints .line).editor = { console.editor with geometry := some painted } ∧
      start.Pictures (console.paints .line).stage.terminal
        (image (console.paints .line).editor painted) := by
  intro printed painted
  obtain ⟨editor, written⟩ := console.paints_line located
  refine ⟨editor, ?_⟩
  rw [written, editor, firstRow]
  refine pictures.paint same columns (plain.paintedText _) ?_ _
  rw [Editing.length_paintedText, covered]
  change geometry.maxPrinted ≤ printed + (max geometry.maxPrinted printed - printed)
  omega

/-- A paint after an edit keeps the image up to date, if the line is painted whenever its text has
changed. -/
theorem pictures_paints {editor : Editor} {changed : Editing.Paint}
    (covered : editor.line.printedLength ≤ geometry.maxPrinted)
    (pictures : start.Pictures console.stage.terminal (image editor geometry))
    (prompt : console.editor.line.prompt = editor.line.prompt)
    (kept : changed ≠ .line → console.editor.line.text = editor.line.text) :
    let painted := { geometry with
      maxPrinted := max geometry.maxPrinted console.editor.line.printedLength }
    (console.paints changed).editor = { console.editor with geometry := some painted } ∧
      start.Pictures (console.paints changed).stage.terminal
        (image (console.paints changed).editor painted) := by
  intro painted
  by_cases whole : changed = .line
  · subst whole
    exact pictures_paints_line console located firstRow same columns plain
      (length_image covered) pictures
  have printed : console.editor.line.printedLength = editor.line.printedLength := by
    unfold Line.printedLength Line.promptLength Line.length
    rw [prompt, kept whole]
  have unchanged : painted = geometry := by
    have most : max geometry.maxPrinted console.editor.line.printedLength = geometry.maxPrinted :=
      Nat.max_eq_left (printed ▸ covered)
    change Geometry.mk geometry.firstRow geometry.width (max _ _) = geometry
    rw [most]
  have still : { console.editor with geometry := some geometry } = console.editor := by
    rw [← located]
  have shown : image console.editor geometry = image editor geometry := by
    unfold image
    rw [printed, Editing.toList_paintedText, Editing.toList_paintedText, prompt, kept whole]
  rw [unchanged, still]
  rcases console.paints_of_ne_line whole with nothing | ⟨position, moved⟩
  · rw [nothing, shown]
    exact ⟨rfl, pictures⟩
  · rw [moved, shows_editor, shown]
    exact ⟨rfl, pictures.move same position⟩

end Paint

/-- The console after a key was read, before anything is painted. -/
def hears (key : Key) (console : Console Script) : Console Script :=
  notes (console.editor.noticeOf key) { console.reads with editor := (console.editor.handled key).1 }

/-- While the width is that of the geometry, a key is responded to with a paint alone. -/
theorem responds_of_width_eq {console : Console Script} {geometry : Geometry}
    (located : console.editor.geometry = some geometry)
    (width : geometry.width = console.reads.stage.terminal.width) (key : Key) :
    console.reads.responds key =
      ((console.hears key).paints (console.editor.handled key).2).shows [.flush] := by
  have fitted : console.reads.fits = console.reads := fits_of_width_eq located width
  unfold Console.responds handles
  rw [fitted]
  rfl

namespace Displays
variable {start console : Console Script} {prompt : String} {geometry : Geometry}

/-- A session that began displays its prompt. -/
theorem begun (steady : start.stage.terminal.Steady)
    (plain : Editor.Plain { start.editor with line := Line.start prompt }) :
    Displays start prompt (start.begins prompt)
      { firstRow := start.stage.terminal.cursor.row, width := start.stage.terminal.width,
        maxPrinted := max 0 (start.begins prompt).editor.line.printedLength } := by
  have shows := start.shows_begins prompt
  have repaints := start.repaints_begins prompt
  have line : (start.begins prompt).editor.line = Line.start prompt := repaints.line_eq
  obtain ⟨editor, pictures⟩ := pictures_paints_line (start.starts prompt) rfl rfl rfl
    steady.columns ⟨plain.prompt, plain.text, plain.entries⟩ rfl (.refl _)
  have flushed := pictures.flush ((start.starts prompt).shows_paints .line).width_eq
  rw [line]
  exact {
    located := congrArg Editor.geometry editor
    firstRow := rfl
    width := rfl
    steady := shows.steady steady
    columns := shows.width_eq
    prompt := congrArg Line.prompt line
    plain := repaints.plain plain
    covered := line ▸ Nat.le_max_right 0 _
    pictures := flushed }

/-- A key that is read does not move the line on the screen. -/
theorem located_hears (displays : Displays start prompt console geometry) (key : Key) :
    (console.hears key).editor.geometry = some geometry :=
  (console.editor.geometry_handled key).trans displays.located

/-- The width has not changed, so a key is responded to with a paint alone. -/
theorem responds_eq (displays : Displays start prompt console geometry) (key : Key) :
    console.reads.responds key =
      ((console.hears key).paints (console.editor.handled key).2).shows [.flush] :=
  responds_of_width_eq displays.located
    (displays.width.trans (((width_reads displays.steady).trans displays.columns).symm)) key

/-- **A key** that a session responds to keeps what is displayed up to date. -/
theorem responds (displays : Displays start prompt console geometry) (key : Key) :
    Displays start prompt (console.reads.responds key) { geometry with
      maxPrinted := max geometry.maxPrinted
        (console.reads.responds key).editor.line.printedLength } := by
  have steady := steady_reads displays.steady
  have columns : console.reads.stage.terminal.width = start.stage.terminal.width :=
    (width_reads displays.steady).trans displays.columns
  have prompted : (console.hears key).editor.line.prompt = console.editor.line.prompt :=
    console.editor.prompt_handled key
  obtain ⟨editor, pictures⟩ := (console.hears key).pictures_paints (displays.located_hears key)
    displays.firstRow columns (columns ▸ steady.columns) (displays.plain.handled key)
    displays.covered displays.pictures prompted (console.editor.text_handled key)
  have flushed := pictures.flush (((console.hears key).shows_paints _).width_eq.trans columns)
  have responds := displays.responds_eq key
  have shows := console.reads.shows_responds key
  have repaints := console.reads.repaints_responds key
  have line : (console.reads.responds key).editor.line = (console.hears key).editor.line :=
    repaints.line_eq
  rw [line]
  exact {
    located := (congrArg (Editor.geometry ∘ Console.editor) responds).trans
      (congrArg Editor.geometry editor)
    firstRow := displays.firstRow
    width := displays.width
    steady := shows.steady steady
    columns := shows.width_eq.trans columns
    prompt := (congrArg Line.prompt line).trans (prompted.trans displays.prompt)
    plain := repaints.plain (displays.plain.handled key)
    covered := line ▸ Nat.le_max_right _ _
    pictures := responds ▸ flushed }

end Displays

/-- The lengths that the line has had in a session, up to the state after some keys. -/
def printedLengths (prompt : String) (start : Console Script) (keys : List Key) : Set Nat :=
  { n | ∃ earlier state, earlier <+: keys ∧ Attends Script.terminal prompt start earlier state ∧
    state.editor.line.printedLength = n }

namespace Attends
variable {start console : Console Script} {prompt : String} {keys : List Key}

theorem printedLengths_nil (attends : Attends Script.terminal prompt start [] console) :
    printedLengths prompt start [] = {console.editor.line.printedLength} := by
  ext n
  constructor
  · rintro ⟨earlier, state, within, attended, rfl⟩
    rw [List.prefix_nil] at within
    subst within
    rw [attended.unique attends]
    rfl
  · rintro rfl
    exact ⟨[], console, List.prefix_refl _, attends, rfl⟩

/-- One more key adds the length of the line that it leaves. -/
theorem printedLengths_concat {key : Key}
    (attends : Attends Script.terminal prompt start (keys ++ [key]) console) :
    printedLengths prompt start (keys ++ [key]) =
      insert console.editor.line.printedLength (printedLengths prompt start keys) := by
  ext n
  constructor
  · rintro ⟨earlier, state, within, attended, rfl⟩
    rcases List.prefix_concat_iff.mp within with rfl | shorter
    · rw [attended.unique attends]
      exact Set.mem_insert _ _
    · exact Set.mem_insert_of_mem _ ⟨earlier, state, shorter, attended, rfl⟩
  · rintro (rfl | ⟨earlier, state, within, attended, rfl⟩)
    · exact ⟨_, console, List.prefix_refl _, attends, rfl⟩
    · exact ⟨earlier, state, within.trans (List.prefix_append keys [key]), attended, rfl⟩

/-- **Every state of a session is displayed**, and the longest paint is as long as the line ever was
in the session. -/
theorem displays (attends : Attends Script.terminal prompt start keys console)
    (steady : start.stage.terminal.Steady)
    (plain : Editor.Plain { start.editor with line := Line.start prompt }) :
    ∃ geometry, Displays start prompt console geometry ∧
      IsGreatest (printedLengths prompt start keys) geometry.maxPrinted := by
  refine (attends.invariant (fun keys console => ∃ geometry,
    Displays start prompt console geometry ∧
      IsGreatest (printedLengths prompt start keys) geometry.maxPrinted) steady.sound ?_ ?_).1
  · have begun := perform_begin start steady.works steady.columns prompt
    refine ⟨_, Displays.begun steady plain, ?_⟩
    rw [printedLengths_nil (.begun begun), Nat.zero_max]
    exact isGreatest_singleton
  · intro keys key console _ heard kept
    obtain ⟨geometry, displays, greatest⟩ := kept
    refine ⟨_, displays.responds key, ?_⟩
    rw [printedLengths_concat heard, Nat.max_comm]
    exact greatest.insert _

end Attends

/-- **What a user sees.** On a steady terminal, with a prompt and a history without line breaks, a
session comes through a state for all the keys of its script up to the first read that fails. In
each of these states the longest paint is as long as the line ever was in the session, and the
record, replayed on any screen, shows prompt and text from the start of the row in which the session
began, then spaces up to the length of the longest paint, and after these what was there before, as
long as the terminal can address the rows of the longest paint. -/
theorem session_displays (start : Console Script) (prompt : String)
    (steady : start.stage.terminal.Steady) (plain : '\n' ∉ prompt.toList)
    (entries : ∀ entry ∈ start.editor.history.entries, '\n' ∉ entry.toList) :
    (∀ before rest, start.stage.terminal.inputs = before ++ rest → (∀ kind, .fail kind ∉ before) →
      ∃ console, Attends Script.terminal prompt start (Input.keys before) console) ∧
    ∀ keys console, Attends Script.terminal prompt start keys console →
      let firstRow := start.stage.terminal.cursor.row
      let width := start.stage.terminal.width
      let line := console.editor.line
      ∃ geometry recorded, console.editor.geometry = some geometry ∧
        geometry.firstRow = firstRow ∧ geometry.width = width ∧ line.prompt = prompt ∧
        IsGreatest (printedLengths prompt start keys) geometry.maxPrinted ∧
        console.stage.terminal.operations.toList =
          start.stage.terminal.operations.toList ++ recorded ∧
        ∀ screen : Screen, screen.cursor = start.stage.terminal.cursor →
          (∀ n < geometry.maxPrinted, firstRow.toNat + n / width.toNat ≤ 65535) → ∀ n,
          let cell := (screen.replay width recorded).cellAt firstRow width n
          (n < line.printedLength → (prompt.toList ++ line.text)[n]? = some cell) ∧
          (line.printedLength ≤ n → n < geometry.maxPrinted → cell = ' ') ∧
          (geometry.maxPrinted ≤ n → cell = screen.cellAt firstRow width n) := by
  have unbroken : Editor.Plain { start.editor with line := Line.start prompt } :=
    ⟨plain, List.not_mem_nil, entries⟩
  constructor
  · intro before rest script delivers
    obtain ⟨console, -, attends, -⟩ :=
      Attends.exists_of_steady prompt steady before rest script delivers
    exact ⟨console, attends⟩
  intro keys console attends firstRow width line
  obtain ⟨geometry, displays, greatest⟩ := attends.displays steady unbroken
  obtain ⟨recorded, written, replayed⟩ := displays.pictures
  refine ⟨geometry, recorded, displays.located, displays.firstRow, displays.width, displays.prompt,
    greatest, written, ?_⟩
  intro screen here fits n cell
  rw [← length_image displays.covered] at fits
  have shown : cell = _ := (replayed screen here).2 fits n
  refine ⟨?_, ?_, ?_⟩
  · intro printed
    have inside : n < (line.prompt.toList ++ line.text).length := by
      rw [Editing.length_prompt_append_text]
      exact printed
    rw [shown, getElem?_image_of_lt geometry printed, ← displays.prompt,
      List.getElem?_eq_getElem inside]
    rfl
  · intro beyond covered
    rw [shown, getElem?_image_of_le beyond covered]
    rfl
  · intro outside
    rw [← length_image displays.covered] at outside
    rw [shown, List.getElem?_eq_none outside]
    rfl

/-- A session on three columns that goes back to an entry of the history and erases its end. On any
screen there is a character of the text, then a space in the cell of the one that was erased, and
after that what was there before. -/
theorem session_displays_narrow :
    let script : Script :=
      { inputs := [.key (.ofCode .up), .resize 3, .key (.ofCode .backspace)], width := 3,
        cursor := { col := 0, row := 7 } }
    let editor : Editor := { history := { capacity := 2, entries := ["pwd"] } }
    let start : Console Script := { editor, stage := { terminal := script } }
    script.Steady ∧ '\n' ∉ "> ".toList ∧ (∀ entry ∈ editor.history.entries, '\n' ∉ entry.toList) ∧
      ∃ console geometry recorded,
        Attends Script.terminal "> " start [.ofCode .up, .ofCode .backspace] console ∧
        console.editor.geometry = some geometry ∧ geometry.firstRow = 7 ∧ geometry.width = 3 ∧
        IsGreatest (printedLengths "> " start [.ofCode .up, .ofCode .backspace])
          geometry.maxPrinted ∧
        geometry.maxPrinted = 5 ∧ console.editor.line.printedLength = 4 ∧
        console.stage.terminal.operations.toList = recorded ∧
        ∀ screen : Screen, screen.cursor = { col := 0, row := 7 } →
          let after := screen.replay 3 recorded
          after.cellAt 7 3 3 = 'w' ∧ after.cellAt 7 3 4 = ' ' ∧
            after.cellAt 7 3 5 = screen.cellAt 7 3 5 := by
  intro script editor start
  have steady : script.Steady := ⟨rfl, by decide, by simp [script]⟩
  have plain : '\n' ∉ "> ".toList := by decide
  have entries : ∀ entry ∈ editor.history.entries, '\n' ∉ entry.toList := by decide
  obtain ⟨-, shows⟩ := session_displays start "> " steady plain entries
  have begun : Attends Script.terminal "> " start [] (start.begins "> ") :=
    .begun (perform_begin start steady.works steady.columns "> ")
  have recalled := begun.hears steady.sound (.ofCode .up) (by decide +kernel)
  have attends := recalled.hears steady.sound (.ofCode .backspace) (by decide +kernel)
  obtain ⟨geometry, recorded, located, firstRow, width, -, greatest, written, cells⟩ :=
    shows _ _ attends
  have longest : geometry.maxPrinted = 5 := by
    have known : ((((start.begins "> ").reads.responds (.ofCode .up)).reads.responds
        (.ofCode .backspace)).editor.geometry.map (·.maxPrinted)) = some 5 := by decide +kernel
    rw [located] at known
    exact Option.some_inj.mp known
  refine ⟨steady, plain, entries, _, geometry, recorded, attends, located, firstRow, width, greatest,
    longest, by decide +kernel, written, ?_⟩
  intro screen here after
  rw [longest] at cells
  have cells := cells screen here (by decide)
  have text := (cells 3).1 (by decide +kernel)
  have padding := (cells 4).2.1 (by decide +kernel) (by decide)
  have beyond := (cells 5).2.2 (by decide)
  exact ⟨Option.some_inj.mp (text.symm.trans (by decide +kernel)), padding, beyond⟩

end Console

end PromptLine
