import PromptLine.Proofs.Line.Simulation
import PromptLine.Proofs.Script.Overlay
import PromptLine.Proofs.Session.Cursor
import PromptLine.Proofs.Session.Display
import PromptLine.Proofs.Session.Draft

/-!
# Tabs and spaces

A tab puts in all its spaces at once and paints the line once, where typed spaces paint it one by
one. In a session of constant width it comes to the same (`PromptLine.Console.tab_typed`): each of
these paints begins where the line begins, and none is shorter than the one before, so what is seen
in the end is the last one. A tab of no width paints what is there already
(`PromptLine.Console.Attends.presents`).
-/

namespace PromptLine

namespace Script

/-- **The record shows a text.** Whatever was on the screen when the first terminal was as it is,
the operations recorded since then show the text from the start of the row of the cursor on, if it
has no line breaks and its rows can be addressed. The cursor is where the terminal has it. Texts
that were painted before may have had line breaks, so nothing is said of the other cells. -/
def Depicts (start script : Script) (text : List Char) : Prop :=
  ∃ recorded, script.operations.toList = start.operations.toList ++ recorded ∧
    ∀ screen : Screen, screen.cursor = start.cursor →
      (screen.replay start.width recorded).cursor = script.cursor ∧
      ('\n' ∉ text →
        (∀ n < text.length, start.cursor.row.toNat + n / start.width.toNat ≤ 65535) →
        (screen.replay start.width recorded).Shows start.cursor.row start.width text)

namespace Depicts
variable {start script : Script} {text : List Char}

theorem refl (start : Script) : start.Depicts start [] := by
  refine ⟨[], (List.append_nil _).symm, ?_⟩
  intro screen same
  exact ⟨same, fun _ _ n c found => by simp at found⟩

/-- Operations that turn the text that is shown into another one. -/
theorem recordAll (depicts : start.Depicts script text) (same : script.width = start.width)
    {next : List Char} {operations : List Operation}
    (turns : '\n' ∉ next →
      (∀ n < next.length, start.cursor.row.toNat + n / start.width.toNat ≤ 65535) →
      ∀ screen : Screen, (next = text → screen.Shows start.cursor.row start.width text) →
        (screen.replay start.width operations).Shows start.cursor.row start.width next) :
    start.Depicts (script.recordAll operations) next := by
  obtain ⟨recorded, written, replayed⟩ := depicts
  refine ⟨recorded ++ operations, ?_, ?_⟩
  · rw [recordAll_operations, written, List.append_assoc]
  intro screen here
  obtain ⟨cursor, shows⟩ := replayed screen here
  rw [Screen.replay_append]
  constructor
  · rw [← same] at cursor ⊢
    exact Screen.cursor_replay script operations cursor
  · intro plain fits
    apply turns plain fits
    rintro rfl
    exact shows plain fits

/-- A move leaves the text that is depicted as it is. -/
theorem move (depicts : start.Depicts script text) (same : script.width = start.width)
    (position : Position) : start.Depicts (script.recordAll [.move position]) text :=
  depicts.recordAll same fun _ _ _ shows => shows rfl

/-- A flush leaves the text that is depicted as it is. -/
theorem flush (depicts : start.Depicts script text) (same : script.width = start.width) :
    start.Depicts (script.recordAll [.flush]) text :=
  depicts.recordAll same fun _ _ _ shows => shows rfl

/-- A paint shows its text, whatever was shown before. -/
theorem paint (depicts : start.Depicts script text) (same : script.width = start.width)
    (columns : start.width ≠ 0) (painted : String) (position : Position) :
    start.Depicts (script.recordAll
      [.move { col := 0, row := start.cursor.row }, .write painted, .move position])
      painted.toList := by
  refine depicts.recordAll same ?_
  intro plain fits screen _ n c found
  rw [Screen.cellAt_paint columns plain fits, found]
  rfl

end Depicts

end Script

/-- Characters that are put in take none out. -/
theorem Line.subset_text_insert (line : Line) (added : List Char) :
    line.text ⊆ (line.insert added).text := by
  intro c member
  rw [← List.take_append_drop line.cursor line.text] at member
  rcases List.mem_append.mp member with before | after
  · exact List.mem_append_left _ before
  · exact List.mem_append_right _ (List.mem_append_right _ after)

/-- A line does not get shorter when something is inserted. -/
theorem Line.printedLength_le_insert (line : Line) (added : List Char) :
    line.printedLength ≤ (line.insert added).printedLength := by
  have whole := congrArg List.length (List.take_append_drop line.cursor line.text)
  apply Nat.add_le_add_left
  change line.text.length ≤ (line.text.take line.cursor ++ (added ++ line.text.drop _)).length
  rw [List.length_append] at whole
  rw [List.length_append, List.length_append]
  omega

/-- A paint that is not shorter than the one before makes that one forgotten. -/
theorem Geometry.reaching_reaching (geometry : Geometry) {line longer : Line}
    (grows : line.printedLength ≤ longer.printedLength) :
    (geometry.reaching line).reaching longer = geometry.reaching longer := by
  have most : max (max geometry.maxPrinted line.printedLength) longer.printedLength =
      max geometry.maxPrinted longer.printedLength := by omega
  unfold reaching
  rw [most]

namespace Console

/-- **The screen presents the line.** The line is where the session began and wraps where the
terminal does, and the record shows what was painted of it last. -/
structure Presents (start console : Console Script) (geometry : Geometry) : Prop where
  located : console.editor.geometry = some geometry
  firstRow : geometry.firstRow = start.stage.terminal.cursor.row
  width : geometry.width = start.stage.terminal.width
  columns : console.stage.terminal.width = start.stage.terminal.width
  covered : console.editor.line.printedLength ≤ geometry.maxPrinted
  depicts : start.stage.terminal.Depicts console.stage.terminal (image console.editor geometry)

namespace Presents
variable {start console next : Console Script} {geometry : Geometry}

/-- A paint of the line presents it. -/
theorem of_paints_line {text : List Char} (located : console.editor.geometry = some geometry)
    (firstRow : geometry.firstRow = start.stage.terminal.cursor.row)
    (width : geometry.width = start.stage.terminal.width)
    (columns : console.stage.terminal.width = start.stage.terminal.width)
    (some : start.stage.terminal.width ≠ 0)
    (depicts : start.stage.terminal.Depicts console.stage.terminal text) :
    ∃ painted, start.Presents (console.paints .line) painted := by
  obtain ⟨editor, written⟩ := console.paints_line located
  refine ⟨{ geometry with maxPrinted := max geometry.maxPrinted console.editor.line.printedLength },
    congrArg Editor.geometry editor, firstRow, width, ?_, ?_, ?_⟩
  · exact (console.shows_paints .line).width_eq.trans columns
  · rw [editor]
    exact Nat.le_max_right _ _
  · rw [written, editor, firstRow]
    exact depicts.paint columns some _ _

/-- A change that is painted as it has to be keeps the line presented. -/
theorem paints (presents : start.Presents console geometry) (some : start.stage.terminal.width ≠ 0)
    (located : next.editor.geometry = console.editor.geometry)
    (terminal : next.stage.terminal = console.stage.terminal)
    (prompt : next.editor.line.prompt = console.editor.line.prompt) {changed : Editing.Paint}
    (kept : changed ≠ .line → next.editor.line.text = console.editor.line.text) :
    ∃ painted, start.Presents (next.paints changed) painted := by
  have placed := located.trans presents.located
  have columns : next.stage.terminal.width = start.stage.terminal.width :=
    (congrArg Script.width terminal).trans presents.columns
  have depicts := presents.depicts
  rw [← terminal] at depicts
  by_cases whole : changed = .line
  · subst whole
    exact of_paints_line placed presents.firstRow presents.width columns some depicts
  have printed : next.editor.line.printedLength = console.editor.line.printedLength := by
    unfold Line.printedLength Line.promptLength Line.length
    rw [prompt, kept whole]
  have shown : image next.editor geometry = image console.editor geometry := by
    unfold image
    rw [printed, Editing.toList_paintedText, Editing.toList_paintedText, prompt, kept whole]
  have covered := printed.trans_le presents.covered
  rw [← shown] at depicts
  rcases next.paints_of_ne_line whole with nothing | ⟨position, moved⟩
  · rw [nothing]
    exact ⟨geometry, placed, presents.firstRow, presents.width, columns, covered, depicts⟩
  · rw [moved]
    exact ⟨geometry, placed, presents.firstRow, presents.width, columns, covered,
      depicts.move columns position⟩

/-- A flush leaves what is presented as it is. -/
theorem flush (presents : start.Presents console geometry) :
    start.Presents (console.shows [.flush]) geometry where
  located := presents.located
  firstRow := presents.firstRow
  width := presents.width
  columns := presents.columns
  covered := presents.covered
  depicts := presents.depicts.flush presents.columns

/-- **A key** that a session responds to keeps the line presented. -/
theorem responds (presents : start.Presents console geometry)
    (steady : console.stage.terminal.Steady) (key : Key) :
    ∃ painted, start.Presents (console.reads.responds key) painted := by
  have read : console.reads.stage.terminal.width = console.stage.terminal.width :=
    width_reads steady
  have width := presents.width.trans (read.trans presents.columns).symm
  have some : start.stage.terminal.width ≠ 0 := presents.columns ▸ steady.columns
  have heard : start.Presents console.reads geometry :=
    { presents with columns := read.trans presents.columns }
  rw [responds_of_width_eq presents.located width]
  have placed : (console.hears key).editor.geometry = console.reads.editor.geometry :=
    console.editor.geometry_handled key
  have terminal : (console.hears key).stage.terminal = console.reads.stage.terminal := rfl
  have prompt : (console.hears key).editor.line.prompt = console.reads.editor.line.prompt :=
    console.editor.prompt_handled key
  obtain ⟨painted, shown⟩ :=
    heard.paints some placed terminal prompt (console.editor.text_handled key)
  exact ⟨painted, shown.flush⟩

end Presents

/-- **All states of a session present the line**, on a steady terminal. -/
theorem Attends.presents {start console : Console Script} {prompt : String} {keys : List Key}
    (attends : Attends Script.terminal prompt start keys console)
    (steady : start.stage.terminal.Steady) : ∃ geometry, start.Presents console geometry := by
  refine (attends.invariant (fun _ console => ∃ geometry, start.Presents console geometry)
    steady.sound ?_ ?_).1
  · have begun : ∃ painted, start.Presents ((start.starts prompt).paints .line) painted :=
      Presents.of_paints_line rfl rfl rfl rfl steady.columns (.refl start.stage.terminal)
    obtain ⟨painted, shown⟩ := begun
    exact ⟨painted, shown.flush⟩
  · intro keys key console attended _ presented
    obtain ⟨geometry, presents⟩ := presented
    exact presents.responds (attended.steady steady) key

/-- **The line was painted over** with another one, in one paint or in more. The editor is as one
paint leaves it, and so are the cells of a screen that showed the line before, as long as the rows
of the longest paint can be addressed. -/
structure Overpaints (console : Console Script) (geometry : Geometry) (next : Console Script)
    (line : Line) : Prop where
  editor : next.editor = { console.editor with
    line := line, geometry := some (geometry.reaching line) }
  cursor : next.stage.terminal.cursor = geometry.cursorPosition line.cursor line.promptLength
  record : ∃ operations, next.stage.terminal = console.stage.terminal.recordAll operations ∧
    let text := image next.editor (geometry.reaching line)
    ('\n' ∉ text →
      (∀ n < text.length, geometry.firstRow.toNat + n / geometry.width.toNat ≤ 65535) →
      ∀ screen : Screen, screen.cursor = console.stage.terminal.cursor →
        screen.Shows geometry.firstRow geometry.width (image console.editor geometry) →
        screen.replay geometry.width operations =
          { cells := Screen.overlay geometry.firstRow geometry.width text screen.cells
            cursor := geometry.cursorPosition line.cursor line.promptLength })

/-- A line break that is painted is one of the line. -/
theorem lineBreak_mem_paintedText {line : Line} {padding : Nat} :
    '\n' ∈ (Editing.paintedText line padding).toList ↔
      '\n' ∈ line.prompt.toList ∨ '\n' ∈ line.text := by
  rw [Editing.toList_paintedText, List.mem_append, List.mem_append]
  simp [List.mem_replicate]

namespace Overpaints
variable {console next other : Console Script} {geometry : Geometry} {line : Line}

theorem line_eq (overpaints : console.Overpaints geometry next line) : next.editor.line = line :=
  congrArg Editor.line overpaints.editor

/-- The image after a paint is as long as the longest paint then. -/
theorem length_image (overpaints : console.Overpaints geometry next line) :
    (image next.editor (geometry.reaching line)).length = (geometry.reaching line).maxPrinted :=
  Console.length_image (overpaints.line_eq ▸ Nat.le_max_right _ _)

/-- Without a paint, the line is as it was. -/
theorem refl (inPlace : console.InPlace geometry)
    (covered : console.editor.line.printedLength ≤ geometry.maxPrinted) :
    console.Overpaints geometry console console.editor.line := by
  have unchanged : geometry.reaching console.editor.line = geometry := by
    unfold Geometry.reaching
    rw [Nat.max_eq_left covered]
  refine ⟨?_, inPlace.cursor, [], rfl, ?_⟩
  · rw [unchanged, ← inPlace.located]
  · rw [unchanged]
    intro text _ _ screen here shows
    rw [Screen.overlay_of_shows shows, ← inPlace.cursor, ← here]
    rfl

/-- A paint of a line that is not shorter reaches as far as those before. -/
theorem length_image_le (overpaints : console.Overpaints geometry next line) {longer : Line}
    (grows : line.printedLength ≤ longer.printedLength) :
    (image next.editor (geometry.reaching line)).length ≤
      (Editing.paintedText longer
        ((geometry.reaching longer).maxPrinted - longer.printedLength)).toList.length := by
  have reaches : (geometry.reaching line).maxPrinted ≤ (geometry.reaching longer).maxPrinted := by
    change max geometry.maxPrinted line.printedLength ≤ max geometry.maxPrinted _
    omega
  rw [overpaints.length_image, Editing.length_paintedText]
  omega

/-- Without line breaks after spaces were put in, there were none before. -/
theorem lineBreak_not_mem_image (overpaints : console.Overpaints geometry next line)
    {added : List Char} {padding : Nat}
    (plain : '\n' ∉ (Editing.paintedText (line.insert added) padding).toList) :
    '\n' ∉ image next.editor (geometry.reaching line) := by
  rw [image, lineBreak_mem_paintedText, overpaints.line_eq]
  rw [lineBreak_mem_paintedText] at plain
  exact fun broken => plain (broken.imp_right fun old => line.subset_text_insert added old)

/-- Spaces that are put in and painted are one more paint, which is not shorter. -/
theorem insert (overpaints : console.Overpaints geometry next line) (columns : geometry.width ≠ 0)
    (count : Nat)
    (editor : other.editor = { next.editor with line := line.insert (List.replicate count ' ') })
    (terminal : other.stage.terminal = next.stage.terminal) :
    console.Overpaints geometry (other.paints .line) (line.insert (List.replicate count ' ')) := by
  let longer := line.insert (List.replicate count ' ')
  let painted := geometry.reaching longer
  let painting := Editing.paintedText longer (painted.maxPrinted - longer.printedLength)
  let stroke : List Operation := [.move { col := 0, row := geometry.firstRow }, .write painting,
    .move (geometry.cursorPosition longer.cursor longer.promptLength)]
  have grows : line.printedLength ≤ longer.printedLength := line.printedLength_le_insert _
  have edited : other.editor.line = longer := congrArg Editor.line editor
  have located : other.editor.geometry = some (geometry.reaching line) := by
    rw [editor, overpaints.editor]
  obtain ⟨shown, written⟩ := other.paints_line located
  rw [edited, geometry.reaching_reaching grows] at shown written
  have paint : (other.paints .line).editor =
      { console.editor with line := longer, geometry := some painted } := by
    rw [shown, editor, overpaints.editor]
  have after : (other.paints .line).editor.line = longer := congrArg Editor.line paint
  have covered := overpaints.length_image_le grows
  obtain ⟨operations, recorded, overlays⟩ := overpaints.record
  refine ⟨paint, congrArg Script.cursor written, operations ++ stroke, ?_, ?_⟩
  · rw [written, terminal, recorded]
    exact List.foldl_append.symm
  · have text : image (other.paints .line).editor painted = painting.toList := by
      rw [image, after]
    dsimp only at overlays ⊢
    rw [text]
    intro plain fits screen here shows
    have overlaid := overlays (overpaints.lineBreak_not_mem_image plain)
      (fun n inside => fits n (Nat.lt_of_lt_of_le inside covered)) screen here shows
    rw [Screen.replay_append, overlaid, Screen.replay_paint columns plain fits,
      Screen.overlay_overlay covered]

/-- A tab is one paint of the line with its spaces. -/
theorem act_tab (inPlace : console.InPlace geometry)
    (covered : console.editor.line.printedLength ≤ geometry.maxPrinted)
    (columns : geometry.width ≠ 0) (works : console.stage.terminal.writeFailure? = none) :
    ∃ tabbed, console.perform Script.terminal (Editing.act .tab) = (.ok (), tabbed) ∧
      console.Overpaints geometry tabbed
        (console.editor.line.insert (List.replicate console.editor.settings.tabWidth ' ')) := by
  let spaces := List.replicate console.editor.settings.tabWidth ' '
  let edited := { console with editor :=
    { console.editor with line := console.editor.line.insert spaces } }
  refine ⟨edited.paints .line, ?_, (refl inPlace covered).insert columns _ rfl rfl⟩
  unfold Editing.act
  rw [perform_get_bind]
  refine (perform_bind_of_ok (perform_set ..)).trans ?_
  exact perform_repaint edited works

/-- **Typed spaces** are paints one after the other, and come to one. -/
theorem types (overpaints : console.Overpaints geometry next line) (columns : geometry.width ≠ 0)
    (works : next.stage.terminal.writeFailure? = none) {spaces : List Key}
    (unbound : ∀ key ∈ spaces, key.character = ' ' ∧ console.editor.bindings.find? key = none) :
    ∃ typed, next.perform Script.terminal (forM spaces Editing.handle) = (.ok (), typed) ∧
      console.Overpaints geometry typed
        (line.edits (List.replicate spaces.length (.insertChar ' '))) := by
  induction spaces generalizing next line with
  | nil => exact ⟨next, rfl, overpaints⟩
  | cons key rest ih =>
    obtain ⟨⟨blank, free⟩, others⟩ := List.forall_mem_cons.mp unbound
    have bound : next.editor.bindings.find? key = none := by rw [overpaints.editor, free]
    have printable : key.isPrintable := by
      rw [Key.isPrintable, blank]
      decide
    have handled : next.editor.handled key =
        ({ next.editor with line := line.insert (List.replicate 1 ' ') }, .line) := by
      unfold Editor.handled
      rw [bound]
      dsimp only
      rw [if_pos printable, blank, overpaints.line_eq]
      rfl
    have painted : console.Overpaints geometry (next.handles key)
        (line.insert (List.replicate 1 ' ')) := by
      unfold handles
      rw [handled]
      exact overpaints.insert columns 1 rfl rfl
    have working := (next.shows_handles key).writeFailure?_eq.trans works
    obtain ⟨typed, performed, last⟩ := ih painted working others
    refine ⟨typed, ?_, last⟩
    rw [List.forM_cons, perform_bind_of_ok (perform_handle next works key)]
    exact performed

/-- **However often a line was painted over**, the same is seen in the end. -/
theorem replay_eq (overpaints : console.Overpaints geometry next line)
    (again : console.Overpaints geometry other line) :
    ∃ first second, next.stage.terminal = console.stage.terminal.recordAll first ∧
      other.stage.terminal = console.stage.terminal.recordAll second ∧
      ('\n' ∉ line.prompt.toList → '\n' ∉ line.text →
        (∀ n < (geometry.reaching line).maxPrinted,
          geometry.firstRow.toNat + n / geometry.width.toNat ≤ 65535) →
        ∀ screen : Screen, screen.cursor = console.stage.terminal.cursor →
          screen.Shows geometry.firstRow geometry.width (image console.editor geometry) →
          screen.replay geometry.width second = screen.replay geometry.width first) := by
  have same : other.editor = next.editor := again.editor.trans overpaints.editor.symm
  obtain ⟨first, recorded, shown⟩ := overpaints.record
  obtain ⟨second, recorded', shown'⟩ := again.record
  refine ⟨first, second, recorded, recorded', ?_⟩
  intro prompt text fits screen here shows
  have plain : '\n' ∉ image next.editor (geometry.reaching line) := by
    rw [image, lineBreak_mem_paintedText, overpaints.line_eq]
    exact not_or.mpr ⟨prompt, text⟩
  rw [← overpaints.length_image] at fits
  rw [same] at shown'
  exact (shown' plain fits screen here shows).trans (shown plain fits screen here shows).symm

end Overpaints

/-- The prompt of a session stays. -/
theorem Attends.prompt_eq {start console : Console Script} {prompt : String} {keys : List Key}
    (attends : Attends Script.terminal prompt start keys console) :
    console.editor.line.prompt = prompt := by
  apply attends.editor (fun editor => editor.line.prompt = prompt) rfl
  · intro editor after repaints kept
    exact (congrArg Line.prompt repaints.line_eq).trans kept
  · intro key _ editor kept
    exact (editor.prompt_handled key).trans kept

/-- Every state of a session holds a draft. -/
theorem Attends.exists_holds {start console : Console Script} {prompt : String} {keys : List Key}
    (attends : Attends Script.terminal prompt start keys console) :
    ∃ draft, console.editor.Holds draft := by
  apply attends.editor (fun editor => ∃ draft, editor.Holds draft)
  · exact ⟨{ browsing := start.editor.history.browsing }, Line.cut_start prompt, rfl⟩
  · rintro editor after repaints ⟨draft, holds⟩
    exact ⟨draft, holds.of_repaints repaints⟩
  · rintro key _ editor ⟨draft, holds⟩
    exact ⟨_, holds.handled key⟩

/-- **A tab is the same as typing its spaces.** In every state of a session on a steady terminal, a
tab and as many spaces as it is wide, none of which is bound to an action, both succeed. They leave
the same editor, its line, its geometry and its history, and the same cursor on the terminal. All
that was recorded since the session began, replayed on any screen, shows the same in every cell, if
neither prompt nor text has line breaks and the rows of the longest paint can be addressed. -/
theorem tab_typed {start console : Console Script} {prompt : String} {keys spaces : List Key}
    (steady : start.stage.terminal.Steady)
    (attends : Attends Script.terminal prompt start keys console)
    (count : spaces.length = console.editor.settings.tabWidth)
    (unbound : ∀ key ∈ spaces, key.character = ' ' ∧ console.editor.bindings.find? key = none) :
    ∃ tabbed typed geometry, console.perform Script.terminal (Editing.act .tab) = (.ok (), tabbed) ∧
      console.perform Script.terminal (forM spaces Editing.handle) = (.ok (), typed) ∧
      typed.editor = tabbed.editor ∧
      typed.stage.terminal.cursor = tabbed.stage.terminal.cursor ∧
      tabbed.editor.geometry = some geometry ∧
      ∃ atOnce oneByOne,
        tabbed.stage.terminal.operations.toList =
          start.stage.terminal.operations.toList ++ atOnce ∧
        typed.stage.terminal.operations.toList =
          start.stage.terminal.operations.toList ++ oneByOne ∧
        ('\n' ∉ prompt.toList → '\n' ∉ console.editor.line.text →
          ∀ screen : Screen, screen.cursor = start.stage.terminal.cursor →
          (∀ n < geometry.maxPrinted, start.stage.terminal.cursor.row.toNat +
            n / start.stage.terminal.width.toNat ≤ 65535) →
          screen.replay start.stage.terminal.width oneByOne =
            screen.replay start.stage.terminal.width atOnce) := by
  obtain ⟨geometry, presents⟩ := attends.presents steady
  obtain ⟨geometry', inPlace⟩ := attends.inPlace steady.sound
  obtain rfl : geometry = geometry' :=
    Option.some.inj (presents.located.symm.trans inPlace.located)
  have works := (attends.sound steady.sound).works
  have columns : geometry.width ≠ 0 := presents.width ▸ steady.columns
  obtain ⟨draft, holds⟩ := attends.exists_holds
  have prompted := attends.prompt_eq
  let line := console.editor.line.insert (List.replicate console.editor.settings.tabWidth ' ')
  have same : console.editor.line.edits (List.replicate spaces.length (.insertChar ' ')) = line := by
    rw [count, ← List.map_replicate]
    exact (holds.line.insert_eq_edits _).symm
  -- Both ways end with the same line, painted over whatever was painted before.
  obtain ⟨tabbed, acted, once⟩ := Overpaints.act_tab inPlace presents.covered columns works
  obtain ⟨typed, handled, several⟩ :=
    (Overpaints.refl inPlace presents.covered).types columns works unbound
  rw [same] at several
  refine ⟨tabbed, typed, geometry.reaching line, acted, handled,
    several.editor.trans once.editor.symm, several.cursor.trans once.cursor.symm,
    congrArg Editor.geometry once.editor, ?_⟩
  obtain ⟨recorded, written, replayed⟩ := presents.depicts
  obtain ⟨paint, paints, atOnce, oneByOne, seen⟩ := once.replay_eq several
  refine ⟨recorded ++ paint, recorded ++ paints, ?_, ?_, ?_⟩
  · rw [atOnce, Script.recordAll_operations, written, List.append_assoc]
  · rw [oneByOne, Script.recordAll_operations, written, List.append_assoc]
  · intro plainPrompt plainText screen here fits
    obtain ⟨cursor, shows⟩ := replayed screen here
    rw [← presents.width] at cursor
    rw [← presents.width, ← presents.firstRow] at fits shows
    have unbroken : '\n' ∉ image console.editor geometry := by
      rw [image, lineBreak_mem_paintedText, prompted]
      exact not_or.mpr ⟨plainPrompt, plainText⟩
    have still := shows unbroken fun n inside => fits n <| by
      rw [length_image presents.covered] at inside
      exact Nat.lt_of_lt_of_le inside (Nat.le_max_left _ _)
    have prompt : '\n' ∉ line.prompt.toList := by rwa [← prompted] at plainPrompt
    have text : '\n' ∉ line.text := by
      intro broken
      rcases Line.mem_text_insert broken with blank | old
      · cases List.eq_of_mem_replicate blank
      · exact plainText old
    rw [← presents.width, Screen.replay_append, Screen.replay_append]
    exact seen prompt text fits _ cursor still

/-- A tab between two characters on three columns, and its spaces typed there. -/
theorem tab_typed_between :
    let keys : List Key := [.ofChar 'a', .ofChar 'b', .ofCode .left]
    let script : Script :=
      { inputs := keys.map .key, width := 3, cursor := { col := 0, row := 7 } }
    let start : Console Script := { editor := .standard, stage := { terminal := script } }
    let console := start.pressed "> " keys
    let spaces := List.replicate 4 (Key.ofChar ' ')
    script.Steady ∧ Attends Script.terminal "> " start keys console ∧
      spaces.length = console.editor.settings.tabWidth ∧
      (∀ key ∈ spaces, key.character = ' ' ∧ console.editor.bindings.find? key = none) ∧
      '\n' ∉ "> ".toList ∧ '\n' ∉ console.editor.line.text ∧
      ∃ tabbed typed atOnce oneByOne,
        console.perform Script.terminal (Editing.act .tab) = (.ok (), tabbed) ∧
        console.perform Script.terminal (forM spaces Editing.handle) = (.ok (), typed) ∧
        typed.editor = tabbed.editor ∧
        tabbed.stage.terminal.operations.toList = atOnce ∧
        typed.stage.terminal.operations.toList = oneByOne ∧
        ∀ screen : Screen, screen.cursor = script.cursor →
          screen.replay script.width oneByOne = screen.replay script.width atOnce := by
  intro keys script start console spaces
  have steady : script.Steady := ⟨rfl, by decide, by simp [script, keys]⟩
  have attends : Attends Script.terminal "> " start keys console :=
    (Attends.pressed "> " steady.sound (List.append_nil _).symm).1
  have count : spaces.length = console.editor.settings.tabWidth := by decide +kernel
  have unbound : ∀ key ∈ spaces, key.character = ' ' ∧ console.editor.bindings.find? key = none := by
    decide +kernel
  have prompt : '\n' ∉ "> ".toList := by decide
  have text : '\n' ∉ console.editor.line.text := by decide +kernel
  obtain ⟨tabbed, typed, geometry, acted, handled, editor, -, located, atOnce, oneByOne, once,
    several, seen⟩ := tab_typed steady attends count unbound
  have reached : (console.perform Script.terminal (Editing.act .tab)).2.editor.geometry =
      some { firstRow := 7, width := 3, maxPrinted := 8 } := by decide +kernel
  rw [acted, located] at reached
  have fits : ∀ n < geometry.maxPrinted, 7 + n / 3 ≤ 65535 := by
    cases reached
    decide
  exact ⟨steady, attends, count, unbound, prompt, text, tabbed, typed, atOnce, oneByOne, acted,
    handled, editor, once, several, fun screen here => seen prompt text screen here fits⟩

end Console

end PromptLine
