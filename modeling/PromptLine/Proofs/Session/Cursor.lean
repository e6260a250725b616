import PromptLine.Proofs.Editor.Contents
import PromptLine.Proofs.Session.Attending

/-!
# Where the cursor is

Between two keys of a session, the cursor of the terminal is in the place that the geometry of the
editor has for the cursor of the line (`PromptLine.Console.InPlace`). Painting puts it there, a key
after which nothing is painted moves neither of the two cursors, and a change of the width has the
cursor put into its new place before the key is handled.

So the geometry of the editor is that of the terminal whenever a key was handled
(`PromptLine.Console.session_cursor`).
-/

namespace PromptLine

namespace Console

/-- **The cursor is in its place**: where the geometry has the cursor of the line. -/
structure InPlace (console : Console Script) (geometry : Geometry) : Prop where
  located : console.editor.geometry = some geometry
  cursor : console.stage.terminal.cursor =
    geometry.cursorPosition console.editor.line.cursor console.editor.line.promptLength

namespace InPlace
variable {console : Console Script} {geometry : Geometry}

/-- Painting puts the cursor into its place. If nothing is painted, it has to be there before. -/
theorem of_paints (console : Console Script) {geometry : Geometry}
    (located : console.editor.geometry = some geometry) (changed : Editing.Paint)
    (still : changed = .nothing → console.stage.terminal.cursor =
      geometry.cursorPosition console.editor.line.cursor console.editor.line.promptLength) :
    ∃ painted : Geometry, (console.paints changed).InPlace painted ∧
      painted.firstRow = geometry.firstRow ∧ painted.width = geometry.width := by
  cases changed with
  | nothing =>
    rw [paints_nothing]
    exact ⟨geometry, ⟨located, still rfl⟩, rfl, rfl⟩
  | cursor =>
    refine ⟨geometry, ⟨?_, ?_⟩, rfl, rfl⟩
    · rw [paints_cursor, shows_editor]
      exact located
    · simp only [paints, Editor.operations, Editor.painted, located]
      rfl
  | line =>
    refine ⟨(geometry.recordPaint console.editor.line.printedLength).2, ⟨?_, ?_⟩, rfl, rfl⟩
    · simp only [paints, Editor.painted, located]
    · simp only [paints, Editor.operations, Editor.painted, located]
      rfl

/-- A flush leaves the cursor in its place. -/
theorem flush (inPlace : console.InPlace geometry) : (console.shows [.flush]).InPlace geometry where
  located := inPlace.located
  cursor := inPlace.cursor

/-- A read leaves the cursor in its place. -/
theorem reads (inPlace : console.InPlace geometry) : console.reads.InPlace geometry where
  located := inPlace.located
  cursor := inPlace.cursor

/-- After the width was looked at, the cursor is in its place by the new geometry. -/
theorem fits (inPlace : console.InPlace geometry) :
    ∃ fitted : Geometry, console.fits.InPlace fitted ∧
      fitted.width = console.stage.terminal.width := by
  unfold Console.fits
  rw [inPlace.located]
  by_cases same : console.stage.terminal.width = geometry.width
  · simp only [if_pos same]
    exact ⟨geometry, inPlace, same.symm⟩
  · simp only [if_neg same]
    obtain ⟨painted, placed, -, width⟩ := of_paints
      (notes _ { console with editor := { console.editor with geometry := some _ } })
      rfl .cursor nofun
    exact ⟨painted, placed, width⟩

/-- A key that was handled leaves the cursor in its place. -/
theorem handles (inPlace : console.InPlace geometry) (key : Key) :
    ∃ painted : Geometry, (console.handles key).InPlace painted ∧
      painted.width = geometry.width := by
  have located : (console.editor.handled key).1.geometry = some geometry :=
    (console.editor.geometry_handled key).trans inPlace.located
  have still (unpainted : (console.editor.handled key).2 = .nothing) :
      console.stage.terminal.cursor = geometry.cursorPosition
        (console.editor.handled key).1.line.cursor
        (console.editor.handled key).1.line.promptLength := by
    rw [Line.promptLength, console.editor.cursor_handled key unpainted,
      console.editor.prompt_handled key]
    exact inPlace.cursor
  obtain ⟨painted, placed, -, width⟩ := of_paints
    (notes _ { console with editor := (console.editor.handled key).1 })
    located (console.editor.handled key).2 still
  exact ⟨painted, placed, width⟩

/-- **A key** that was responded to leaves the cursor in its place, by a geometry that has the width
of the terminal. -/
theorem responds (inPlace : console.InPlace geometry) (key : Key) :
    ∃ next : Geometry, (console.responds key).InPlace next ∧
      next.width = console.stage.terminal.width := by
  obtain ⟨fitted, placed, width⟩ := inPlace.fits
  obtain ⟨painted, handled, same⟩ := placed.handles key
  exact ⟨painted, handled.flush, same.trans width⟩

end InPlace

/-- In all states of a session on a sound terminal the cursor is in its place. -/
theorem Attends.inPlace {prompt : String} {start console : Console Script} {keys : List Key}
    (attends : Attends Script.terminal prompt start keys console)
    (sound : start.stage.terminal.Sound) : ∃ geometry, console.InPlace geometry := by
  refine (attends.invariant (fun _ console => ∃ geometry, console.InPlace geometry)
    sound ?_ ?_).1
  · obtain ⟨painted, placed, -⟩ :=
      InPlace.of_paints (start.starts prompt) rfl .line nofun
    exact ⟨painted, placed.flush⟩
  · intro keys key console _ _ kept
    obtain ⟨geometry, inPlace⟩ := kept
    obtain ⟨next, placed, -⟩ := inPlace.reads.responds key
    exact ⟨next, placed⟩

/-- **The cursor follows the line.** On a terminal that works and whose script is made of keys and
changes of the width, none of which takes the columns away, a session comes through a state for the
keys of every beginning of the script, if there are columns to begin with. As long as no key before
the last one entered the line, the loop comes to that state after these keys, and then either reads
the next key or, if the last one entered the line, stops. In each of these states the cursor of the
terminal is in the place that the geometry has for the cursor of the line. A key that is read then
is responded to, and leaves a geometry with the width that the terminal had when it delivered the
key. -/
theorem session_cursor (start : Console Script) (prompt : String)
    (works : start.stage.terminal.writeFailure? = none)
    (inputs : ∀ input ∈ start.stage.terminal.inputs, input.IsTame) :
    (start.stage.terminal.width ≠ 0 →
      ∀ before rest, start.stage.terminal.inputs = before ++ rest →
      ∃ console, Attends Script.terminal prompt start (Input.keys before) console) ∧
    ∀ keys console, Attends Script.terminal prompt start keys console →
      ((∀ key ∈ keys.dropLast, start.editor.bindings.find? key ≠ some .enter) → ∀ budget,
        start.perform Script.terminal
            (do Editing.begin prompt; Editing.handleKeys (keys.length + budget)) =
          console.perform Script.terminal (Editing.handleKeys budget)) ∧
      (∃ geometry, console.editor.geometry = some geometry ∧ console.stage.terminal.cursor =
        geometry.cursorPosition console.editor.line.cursor console.editor.line.promptLength) ∧
      ∀ key read,
        console.perform Script.terminal (Editing.call (.readKey true)) = (.ok (some key), read) →
        ∃ next geometry, read.perform Script.terminal (Editing.respond key) = (.ok (), next) ∧
          next.editor.geometry = some geometry ∧
          geometry.width = read.stage.terminal.width := by
  constructor
  · intro columns before rest script
    have tame : start.stage.terminal.Tame := ⟨works, columns, inputs⟩
    have delivers : ∀ kind, .fail kind ∉ before := fun kind member =>
      inputs (.fail kind) (script ▸ List.mem_append_left rest member)
    obtain ⟨console, -, attends, -⟩ :=
      Attends.exists_of_sound prompt tame.sound before rest script delivers
    exact ⟨console, attends⟩
  intro keys console attends
  have tame : start.stage.terminal.Tame := ⟨works, attends.columns, inputs⟩
  have sound := tame.sound
  obtain ⟨geometry, inPlace⟩ := attends.inPlace sound
  refine ⟨?loop, ⟨geometry, inPlace.located, inPlace.cursor⟩, ?width⟩
  case loop =>
    intro silent budget
    apply attends.perform_handleKeys
    intro earlier state within short attended finished
    obtain ⟨key, member, enters⟩ := ((attended.finished_iff sound).2).mp finished
    obtain ⟨later, rfl⟩ := within
    have more : later ≠ [] := by
      intro none
      simp [none] at short
    rw [List.dropLast_append_of_ne_nil more] at silent
    exact silent key (List.mem_append_left _ member) enters
  case width =>
    intro key read heard
    obtain rfl : console.reads = read :=
      congrArg Prod.snd (console.perform_readKey.symm.trans heard)
    have soundRead := sound_reads (attends.sound sound)
    obtain ⟨next, placed, width⟩ := inPlace.reads.responds key
    exact ⟨console.reads.responds key, next,
      perform_respond _ soundRead.works soundRead.columns key, placed.located, width⟩

/-- A session on four columns that are five when the second key is delivered. -/
theorem session_cursor_resized :
    let script : Script :=
      { inputs := [.key (.ofChar 'x'), .resize 5, .key (.ofCode .left)], width := 4,
        cursor := { col := 0, row := 7 } }
    let start : Console Script := { editor := .standard, stage := { terminal := script } }
    script.writeFailure? = none ∧ (∀ input ∈ script.inputs, input.IsTame) ∧
      ∃ console geometry,
        Attends Script.terminal "echo " start [.ofChar 'x', .ofCode .left] console ∧
        console.editor.geometry = some geometry ∧ console.stage.terminal.cursor =
          geometry.cursorPosition console.editor.line.cursor console.editor.line.promptLength := by
  intro script start
  have inputs : ∀ input ∈ script.inputs, input.IsTame := by simp [script, Input.IsTame]
  obtain ⟨comes, stays⟩ := session_cursor start "echo " rfl inputs
  obtain ⟨console, attends⟩ := comes (by decide) script.inputs [] (List.append_nil _).symm
  obtain ⟨-, ⟨geometry, located, cursor⟩, -⟩ := stays _ console attends
  exact ⟨rfl, inputs, console, geometry, attends, located, cursor⟩

end Console

end PromptLine
