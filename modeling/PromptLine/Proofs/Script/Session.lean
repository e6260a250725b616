import PromptLine.Proofs.Script.Painting

/-!
# The steps of a session on a scripted terminal

A scripted terminal is tame if it can do nothing unexpected: its writes succeed, it always has
columns, and its script is made of keys and changes of the width. On a tame terminal every step of a
session succeeds, and what it comes to can be said beforehand: `Console.begins`, `Console.fits`,
`Console.handles` and `Console.responds` are the consoles that the steps leave.

Only a read takes something from the script. Everything else shows something on the screen
(`PromptLine.Script.Shows`) and leaves the script and the width as they are. On every scripted
terminal, tame or not, the keys are delivered one after the other
(`PromptLine.Script.keys_of_answers`).
-/

namespace PromptLine

/-- An input that neither fails nor takes the columns away. -/
def Input.IsTame : Input → Prop
  | .key _ => True
  | .resize width => width ≠ 0
  | .fail _ => False

namespace Input

/-- The key that an input delivers. -/
def key? : Input → Option Key
  | .key pressed => some pressed
  | .resize _ => none
  | .fail _ => none

/-- The keys among the inputs. -/
def keys (inputs : List Input) : List Key := inputs.filterMap key?

@[simp] theorem keys_key (key : Key) (rest : List Input) :
    keys (.key key :: rest) = key :: keys rest := rfl

@[simp] theorem keys_resize (width : UInt16) (rest : List Input) :
    keys (.resize width :: rest) = keys rest := rfl

@[simp] theorem keys_append (first second : List Input) :
    keys (first ++ second) = keys first ++ keys second :=
  List.filterMap_append

/-- The keys of a script are its inputs of that kind. -/
theorem mem_keys {key : Key} {inputs : List Input} : key ∈ keys inputs ↔ .key key ∈ inputs := by
  unfold keys
  rw [List.mem_filterMap]
  constructor
  · rintro ⟨input, member, delivers⟩
    cases input with
    | key pressed =>
      cases delivers
      exact member
    | resize width => cases delivers
    | fail kind => cases delivers
  · intro member
    exact ⟨_, member, rfl⟩

end Input

namespace Script

/-- **A tame terminal.** -/
structure Tame (script : Script) : Prop where
  works : script.writeFailure? = none
  columns : script.width ≠ 0
  inputs : ∀ input ∈ script.inputs, input.IsTame

/-- The second terminal is the first one after something was shown on its screen. -/
def Shows (before after : Script) : Prop :=
  after = { before with
    operations := after.operations
    captured := after.captured
    cursor := after.cursor }

namespace Shows
variable {first second third : Script}

theorem refl (script : Script) : script.Shows script := rfl

theorem trans (shows : first.Shows second) (further : second.Shows third) :
    first.Shows third := by
  unfold Shows at *
  rw [further, shows]

/-- What is shown takes nothing from the script. -/
theorem inputs_eq (shows : first.Shows second) : second.inputs = first.inputs := by
  rw [shows]

/-- What is shown leaves the width as it is. -/
theorem width_eq (shows : first.Shows second) : second.width = first.width := by
  rw [shows]

/-- What is shown changes nothing about writes that fail. -/
theorem writeFailure?_eq (shows : first.Shows second) :
    second.writeFailure? = first.writeFailure? := by
  rw [shows]

/-- What is shown leaves a tame terminal tame. -/
theorem tame (shows : first.Shows second) (tame : first.Tame) : second.Tame where
  works := shows.writeFailure?_eq.trans tame.works
  columns := shows.width_eq ▸ tame.columns
  inputs := shows.inputs_eq ▸ tame.inputs

end Shows

/-- Operations that are recorded are shown. -/
theorem shows_recordAll (operations : List Operation) (script : Script) :
    script.Shows (script.recordAll operations) :=
  script.recordAll_eq operations

end Script

namespace Console

/-- The console after a key was asked for. -/
def reads (console : Console Script) : Console Script :=
  { console with stage :=
    { console.stage with terminal := console.stage.terminal.afterRead true } }

/-- The console after the width of the terminal was looked at. -/
def fits (console : Console Script) : Console Script :=
  match console.editor.geometry with
  | none => console
  | some geometry =>
    let width := console.stage.terminal.width
    if width = geometry.width then console
    else
      let firstRow := Geometry.firstRowOf console.stage.terminal.cursor.row
        console.editor.line.cursorOffset width
      let resized := { console with editor :=
        { console.editor with geometry := some { geometry with width, firstRow } } }
      (resized.notes (.resized geometry.width width geometry.firstRow firstRow)).paints .cursor

/-- The console after a key was handled. -/
def handles (key : Key) (console : Console Script) : Console Script :=
  let handled := { console with editor := (console.editor.handled key).1 }
  (handled.notes (console.editor.noticeOf key)).paints (console.editor.handled key).2

/-- The console after a key was responded to. -/
def responds (key : Key) (console : Console Script) : Console Script :=
  (console.fits.handles key).shows [.flush]

/-- The console with its line taken to start where the cursor is. -/
def captures (console : Console Script) : Console Script :=
  let geometry : Geometry :=
    { firstRow := console.stage.terminal.cursor.row, width := console.stage.terminal.width }
  { console with editor := { console.editor with geometry := some geometry } }

/-- The console with an empty line that starts where the cursor is. -/
def starts (prompt : String) (console : Console Script) : Console Script :=
  captures { console with editor := { console.editor with line := Line.start prompt } }

/-- The console after a session was begun. -/
def begins (prompt : String) (console : Console Script) : Console Script :=
  ((console.starts prompt).paints .line).shows [.flush]

/-- The console after the input ended. -/
def abandons (console : Console Script) : Console Script :=
  let dropped := { console with editor := { console.editor with line := console.editor.line.clear } }
  (dropped.notes (.endOfInput console.editor.line.length)).shows [.writeLine "", .flush]

/-- The console after a text was entered into the history. -/
def remembers (text : String) (console : Console Script) : Console Script :=
  let noted := match console.editor.history.evictedBy? text with
    | some entry => console.notes (.evicted entry console.editor.history.capacity)
    | none => console
  { noted with editor :=
    { console.editor with history := console.editor.history.add text } }

/-- The console with the cursor on the line after the one that was entered. -/
def leaves (console : Console Script) : Console Script :=
  let ended := { console with editor := { console.editor with line := console.editor.line.toEnd } }
  (ended.paints .cursor).shows [.writeLine "", .flush]

/-- The console after the line was entered. -/
def commits (console : Console Script) : Console Script :=
  let text := console.editor.line.content
  let entered := if !text.isEmpty || console.editor.settings.keepsEmptyLines
    then console.leaves.remembers text else console.leaves
  entered.notes (.committed text.length entered.editor.history.length)

section Screens
variable (console : Console Script)

/-- Nothing of the script is taken when something is shown. -/
theorem shows_shows (operations : List Operation) :
    console.stage.terminal.Shows (console.shows operations).stage.terminal :=
  Script.shows_recordAll operations _

/-- Painting only shows something on the terminal. -/
theorem shows_paints (changed : Editing.Paint) :
    console.stage.terminal.Shows (console.paints changed).stage.terminal :=
  console.shows_shows _

/-- Fitting the line to the width only shows something on the terminal. -/
theorem shows_fits : console.stage.terminal.Shows console.fits.stage.terminal := by
  unfold fits
  cases console.editor.geometry with
  | none => exact .refl _
  | some geometry =>
    dsimp only
    split
    · exact .refl _
    · exact shows_paints _ _

/-- Handling a key only shows something on the terminal. -/
theorem shows_handles (key : Key) :
    console.stage.terminal.Shows (console.handles key).stage.terminal :=
  shows_paints _ _

/-- Responding to a key only shows something on the terminal. -/
theorem shows_responds (key : Key) :
    console.stage.terminal.Shows (console.responds key).stage.terminal :=
  (console.shows_fits.trans (shows_handles _ key)).trans (shows_shows _ _)

/-- Beginning a session only shows something on the terminal. -/
theorem shows_begins (prompt : String) :
    console.stage.terminal.Shows (console.begins prompt).stage.terminal :=
  (shows_paints (console.starts prompt) _).trans (shows_shows _ _)

/-- Ending with the input only shows something on the terminal. -/
theorem shows_abandons : console.stage.terminal.Shows console.abandons.stage.terminal :=
  console.shows_shows _

/-- Entering a text into the history shows nothing. -/
theorem shows_remembers (text : String) :
    console.stage.terminal.Shows (console.remembers text).stage.terminal := by
  unfold remembers
  cases console.editor.history.evictedBy? text with
  | none => exact .refl _
  | some entry => exact .refl _

/-- Leaving the line takes the cursor to its end. -/
theorem leaves_editor :
    console.leaves.editor = { console.editor with line := console.editor.line.toEnd } := by
  unfold leaves
  rw [shows_editor, paints_cursor]
  rfl

/-- Leaving the line only shows something on the terminal. -/
theorem shows_leaves : console.stage.terminal.Shows console.leaves.stage.terminal :=
  let ended := { console with editor := { console.editor with line := console.editor.line.toEnd } }
  (ended.shows_paints .cursor).trans (shows_shows _ _)

/-- Entering the line only shows something on the terminal. -/
theorem shows_commits : console.stage.terminal.Shows console.commits.stage.terminal := by
  unfold commits
  dsimp only
  split
  · exact console.shows_leaves.trans (shows_remembers _ _)
  · exact console.shows_leaves

/-- The line that was entered is in the history, unless it is empty and empty lines are not kept. -/
theorem commits_editor :
    console.commits.editor = { console.editor with
      line := console.editor.line.toEnd
      history := if console.editor.line.content ≠ "" ∨ console.editor.settings.keepsEmptyLines then
        console.editor.history.add console.editor.line.content else console.editor.history } := by
  have kept : (!console.editor.line.content.isEmpty || console.editor.settings.keepsEmptyLines) =
      true ↔ console.editor.line.content ≠ "" ∨ console.editor.settings.keepsEmptyLines := by
    simp
  unfold commits notes
  dsimp only
  by_cases enters : console.editor.line.content ≠ "" ∨ console.editor.settings.keepsEmptyLines
  · rw [if_pos (kept.mpr enters), if_pos enters]
    unfold remembers
    rw [leaves_editor]
  · rw [if_neg (mt kept.mp enters), if_neg enters]
    exact console.leaves_editor

/-- Looking at the width changes the place on the screen only. -/
theorem repaints_fits : console.editor.Repaints console.fits.editor := by
  unfold fits
  cases console.editor.geometry with
  | none => exact refl_of Editor.Repaints _
  | some geometry =>
    dsimp only
    split
    · exact refl_of Editor.Repaints _
    · exact trans_of Editor.Repaints (Editor.repaints_geometry _ _) (repaints_paints _ _)

/-- A key that was responded to changes the editor as it does without a terminal. -/
theorem repaints_responds (key : Key) :
    (console.editor.handled key).1.Repaints (console.responds key).editor :=
  trans_of Editor.Repaints (console.repaints_fits.handled key) (repaints_paints _ _)

/-- A session begins with the empty line after the prompt. -/
theorem repaints_begins (prompt : String) :
    Editor.Repaints { console.editor with line := Line.start prompt }
      (console.begins prompt).editor :=
  trans_of Editor.Repaints (Editor.repaints_geometry _ _)
    ((console.starts prompt).repaints_paints .line)

end Screens

variable (console : Console Script)

/-- A read on a scripted terminal delivers what the script has next. -/
theorem perform_readKey :
    console.perform Script.terminal (Editing.call (.readKey true)) =
      ((Script.deliver console.stage.terminal.width console.stage.terminal.inputs).1,
        console.reads) := by
  rw [perform_call]
  simp only [Script.terminal, Script.answer, Array.appendList_nil]
  rfl

/-- The width of a scripted terminal is known without further ado. -/
theorem perform_width :
    console.perform Script.terminal (Editing.call .width) =
      (.ok console.stage.terminal.width, console) := by
  rw [perform_call]
  simp only [Script.terminal, Script.answer, Array.appendList_nil]

/-- The row of the cursor of a scripted terminal is known without further ado. -/
theorem perform_cursorRow :
    console.perform Script.terminal (Editing.call .cursorRow) =
      (.ok console.stage.terminal.cursor.row, console) := by
  rw [perform_call]
  simp only [Script.terminal, Script.answer, Array.appendList_nil]

/-- A line starts in the row of the cursor, if the terminal has columns. -/
theorem perform_capture :
    console.perform Script.terminal (Editing.talk Geometry.capture) =
      (Geometry.start console.stage.terminal.cursor.row console.stage.terminal.width, console) := by
  unfold Geometry.capture
  rw [Editing.talk_bind]
  refine (perform_bind_of_ok (perform_width _)).trans ?_
  rw [Editing.talk_bind]
  exact perform_bind_of_ok (perform_cursorRow _)

/-- On a terminal with columns the line starts in the row of the cursor. -/
theorem perform_capture_of_ne_zero (columns : console.stage.terminal.width ≠ 0) :
    console.perform Script.terminal (Editing.talk Geometry.capture) =
      (.ok { firstRow := console.stage.terminal.cursor.row, width := console.stage.terminal.width },
        console) := by
  rw [perform_capture, Geometry.start, if_neg columns]

/-- On a terminal without columns no line can start. -/
theorem perform_capture_of_zero (zero : console.stage.terminal.width = 0) :
    console.perform Script.terminal (Editing.talk Geometry.capture) =
      (.error .zeroWidth, console) := by
  rw [perform_capture, Geometry.start, if_pos zero]

/-- On a terminal without columns no session begins. -/
theorem perform_begin_of_zero (zero : console.stage.terminal.width = 0) (prompt : String) :
    console.perform Script.terminal (Editing.begin prompt) =
      (.error .zeroWidth,
        { console with editor := { console.editor with line := Line.start prompt } }) := by
  unfold Editing.begin Editing.modifyLine
  rw [perform_bind_of_ok (perform_modify ..)]
  exact perform_bind_of_error (perform_bind_of_error (perform_capture_of_zero _ zero))

/-- While the width stays the same, the line stays where it is. -/
theorem perform_refreshed_of_eq {geometry : Geometry} (offset : Nat)
    (same : console.stage.terminal.width = geometry.width) :
    console.perform Script.terminal (Editing.talk (geometry.refreshed offset)) =
      (.ok none, console) := by
  unfold Geometry.refreshed
  rw [Editing.talk_bind]
  refine (perform_bind_of_ok (perform_width _)).trans ?_
  rw [if_pos same]
  rfl

/-- With another width the first row is found from the row of the cursor. -/
theorem perform_refreshed_of_ne {geometry : Geometry} (offset : Nat)
    (columns : console.stage.terminal.width ≠ 0)
    (other : console.stage.terminal.width ≠ geometry.width) :
    let width := console.stage.terminal.width
    let firstRow := Geometry.firstRowOf console.stage.terminal.cursor.row offset width
    console.perform Script.terminal (Editing.talk (geometry.refreshed offset)) =
      (.ok (some { geometry with width, firstRow }),
        console.notes (.resized geometry.width width geometry.firstRow firstRow)) := by
  unfold Geometry.refreshed
  rw [Editing.talk_bind]
  refine (perform_bind_of_ok (perform_width _)).trans ?_
  rw [if_neg other, if_neg columns, Editing.talk_bind]
  refine (perform_bind_of_ok (perform_cursorRow _)).trans ?_
  rfl

/-- On a terminal with columns it is found out where the line starts. -/
theorem perform_captureGeometry (columns : console.stage.terminal.width ≠ 0) :
    console.perform Script.terminal Editing.captureGeometry = (.ok (), console.captures) :=
  perform_bind_of_ok (perform_capture_of_ne_zero console columns)

section Works
variable (works : console.stage.terminal.writeFailure? = none)
include works

/-- A key is handled on a terminal that works. -/
theorem perform_handle (key : Key) :
    console.perform Script.terminal (Editing.handle key) = (.ok (), console.handles key) := by
  rw [perform_eq, Editing.dialogue_handle]
  refine perform_paint (notes _ { console with editor := (console.editor.handled key).1 }) ?_ _
  exact works

variable (columns : console.stage.terminal.width ≠ 0)
include columns

/-- **Looking at the width** succeeds on a terminal that works and has columns. -/
theorem perform_refreshGeometry :
    console.perform Script.terminal Editing.refreshGeometry = (.ok (), console.fits) := by
  unfold Editing.refreshGeometry fits
  rw [perform_get_bind]
  cases console.editor.geometry with
  | none => rfl
  | some geometry =>
    dsimp only
    by_cases same : console.stage.terminal.width = geometry.width
    · rw [perform_bind_of_ok (perform_refreshed_of_eq console _ same), if_pos same]
      rfl
    · rw [perform_bind_of_ok (perform_refreshed_of_ne console _ columns same), if_neg same]
      refine (perform_bind_of_ok (perform_set ..)).trans (perform_placeCursor _ ?_)
      exact works

omit columns in
/-- The input ends on a terminal that works. -/
theorem perform_abandon :
    console.perform Script.terminal Editing.abandon = (.ok .endOfInput, console.abandons) := by
  unfold Editing.abandon Editing.modifyLine
  rw [perform_get_bind, perform_bind_of_ok (perform_note ..), perform_bind_of_ok (perform_modify ..)]
  refine (perform_bind_of_ok (perform_writeLine _ ?_ _)).trans ?_
  · exact works
  exact perform_bind_of_ok (perform_flush _)

omit columns works in
/-- A text is entered into the history. -/
theorem perform_remember (text : String) :
    console.perform Script.terminal (Editing.remember text) = (.ok (), console.remembers text) := by
  unfold Editing.remember remembers
  rw [perform_get_bind]
  dsimp only
  cases console.editor.history.evictedBy? text with
  | none => rfl
  | some entry => rfl

omit columns in
/-- The line is entered on a terminal that works. -/
theorem perform_commit :
    console.perform Script.terminal Editing.commit =
      (.ok (.line console.editor.line.content), console.commits) := by
  unfold Editing.commit Editing.modifyLine commits leaves
  rw [perform_bind_of_ok (perform_modify ..)]
  refine (perform_bind_of_ok (perform_placeCursor _ ?_)).trans ?_
  · exact works
  refine (perform_bind_of_ok (perform_writeLine _ ?_ _)).trans ?_
  · exact (shows_paints _ _).writeFailure?_eq.trans works
  rw [perform_bind_of_ok (perform_flush _), perform_get_bind]
  simp only [paints_cursor, shows_editor]
  change perform _ (if !console.editor.line.content.isEmpty ||
    console.editor.settings.keepsEmptyLines then _ else _) _ = _
  split
  · exact perform_bind_of_ok (perform_remember _ _)
  · rfl

/-- A key is responded to on a tame terminal. -/
theorem perform_respond (key : Key) :
    console.perform Script.terminal (Editing.respond key) = (.ok (), console.responds key) := by
  have fitted : console.fits.stage.terminal.writeFailure? = none :=
    console.shows_fits.writeFailure?_eq.trans works
  unfold Editing.respond
  rw [perform_bind_of_ok (perform_refreshGeometry console works columns)]
  rw [perform_bind_of_ok (perform_handle _ fitted key)]
  exact perform_flush _

/-- A session is begun on a tame terminal. -/
theorem perform_begin (prompt : String) :
    console.perform Script.terminal (Editing.begin prompt) = (.ok (), console.begins prompt) := by
  unfold Editing.begin Editing.modifyLine
  rw [perform_bind_of_ok (perform_modify ..)]
  refine (perform_bind_of_ok (perform_captureGeometry _ ?_)).trans ?_
  · exact columns
  refine (perform_bind_of_ok (perform_repaint (console.starts prompt) works)).trans ?_
  exact perform_flush _

end Works

section Keys
variable (console : Console Script) (budget : Nat)

/-- A line that is finished is entered without another key. -/
theorem perform_handleKeys_of_finished (works : console.stage.terminal.writeFailure? = none)
    (finished : console.editor.line.finished) :
    console.perform Script.terminal (Editing.handleKeys budget) =
      (.ok (some (.line console.editor.line.content)), console.commits) := by
  cases budget with
  | zero =>
    unfold Editing.handleKeys
    rw [perform_get_bind, if_pos finished, perform_map, perform_commit console works]
    rfl
  | succ budget =>
    unfold Editing.handleKeys
    rw [perform_get_bind, if_pos finished, perform_map, perform_commit console works]
    rfl

/-- A session in which the line was not entered yet goes on with what a read finds. -/
theorem perform_handleKeys_succ (goesOn : ¬ console.editor.line.finished) :
    console.perform Script.terminal (Editing.handleKeys (budget + 1)) =
      match (Script.deliver console.stage.terminal.width console.stage.terminal.inputs).1 with
      | .ok none => console.reads.perform Script.terminal (some <$> Editing.abandon)
      | .ok (some key) => console.reads.perform Script.terminal
          (Editing.respond key >>= fun _ => Editing.handleKeys budget)
      | .error failure => (.error failure, console.reads) := by
  rw [Editing.handleKeys, perform_get_bind, if_neg goesOn, perform_bind, perform_readKey]
  rcases (Script.deliver _ _).1 with failure | _ | key
  · rfl
  · rfl
  · rfl

end Keys

end Console

/-- The key that a call delivers, if it is a read that delivers one. -/
def Exchange.key? : Exchange → Option Key
  | ⟨.readKey _, .ok key?⟩ => key?
  | _ => none

namespace Script

/-- The keys that are there before a read are the one that it delivers and those that it leaves. -/
theorem keys_deliver (intercept : Bool) (width : UInt16) (inputs : List Input) :
    Input.keys inputs =
      (Exchange.key? ⟨.readKey intercept, (deliver width inputs).1⟩).toList ++
        Input.keys (deliver width inputs).2.1 := by
  induction inputs generalizing width with
  | nil => rfl
  | cons input rest ih =>
    cases input with
    | key pressed => rfl
    | resize newWidth => exact ih newWidth
    | fail kind => rfl

/-- An operation on the screen only shows something, if it does not fail. -/
theorem shows_screen (operation : Operation) (script : Script) :
    script.Shows (script.screen operation).terminal := by
  unfold screen
  cases script.writeFailure? with
  | some kind => rfl
  | none => rfl

/-- A call that is not a read shows something at most. -/
theorem shows_answer {call : Call} (silent : ∀ intercept, call ≠ .readKey intercept)
    (script : Script) : script.Shows (terminal.answer call script).terminal := by
  cases call with
  | readKey intercept => exact absurd rfl (silent intercept)
  | write text => exact shows_screen (.write text) script
  | writeLine text => exact shows_screen (.writeLine text) script
  | cursorRow | width | flush => rfl
  | move position => exact shows_screen (.move position) script
  | foreground color => exact shows_screen (.foreground color) script
  | resetColor => exact shows_screen .resetColor script

/-- A call takes from the script the key that it delivers. -/
theorem keys_answer (call : Call) (script : Script) :
    Input.keys script.inputs = (Exchange.key? ⟨call, (terminal.answer call script).reply⟩).toList ++
      Input.keys (terminal.answer call script).terminal.inputs := by
  cases call with
  | readKey intercept => exact keys_deliver intercept script.width script.inputs
  | _ => exact congrArg Input.keys (shows_answer (by nofun) script).inputs_eq.symm

/-- The keys of a script are delivered one after the other, and those that were not are still
there. -/
theorem keys_of_answers {first last : Script} {exchanges : List Exchange}
    (answers : terminal.Answers first exchanges last) :
    Input.keys first.inputs = exchanges.filterMap Exchange.key? ++ Input.keys last.inputs := by
  induction answers with
  | nil script => rfl
  | cons call script last exchanges answers ih =>
    rw [keys_answer call script, ih, ← List.append_assoc]
    congr 1
    rw [List.filterMap_cons]
    cases Exchange.key? ⟨call, (terminal.answer call script).reply⟩ with
    | none => rfl
    | some key => rfl

end Script

end PromptLine
