import PromptLine.Log.Logged
import PromptLine.Proofs.Log.Layers
import PromptLine.Terminal.Scripted

/-!
# A log is a filter of the events

A session notes the same events whether or not there is a log, and whatever log it is. A log takes
them one by one while the session goes on, and after every step it has taken those that a session
without a log has noted so far (`PromptLine.LoggedConsole.Follows`). So nothing of a session depends
on its log, and the file of a log holds the records of the events that pass its threshold
(`PromptLine.LoggedConsole.enact_filters`).
-/

namespace PromptLine

variable {σ α : Type} {log? : Option Log.Open} {before : Log.Outlet}

/-- **A log has kept up with a stage.** The terminals are the same, and from what there was before
the log has come as far as the events that were noted on the stage. -/
structure LoggedStage.Follows (log? : Option Log.Open) (before : Log.Outlet) (stage : Stage σ)
    (logged : LoggedStage σ) : Prop where
  terminal : logged.terminal = stage.terminal
  outlet : logged.outlet = Log.takeAll log? stage.events.toList before

/-- **A dialogue takes the same turns with a log**, and the log keeps up. -/
theorem Dialogue.play_follows (dialogue : Dialogue α) (device : Terminal σ) {stage : Stage σ}
    {logged : LoggedStage σ} (follows : logged.Follows log? before stage) :
    (dialogue.playLogged log? device logged).1 = (dialogue.play device stage).1 ∧
      (dialogue.playLogged log? device logged).2.Follows log? before
        (dialogue.play device stage).2 := by
  induction dialogue generalizing stage logged with
  | done result => exact ⟨rfl, follows⟩
  | ask call next ih =>
    simp only [Dialogue.playLogged, Dialogue.play, follows.terminal]
    apply ih
    refine ⟨rfl, ?_⟩
    simp only [follows.outlet, Array.toList_appendList, Log.takeAll_append]
  | note event next ih =>
    apply ih
    refine ⟨follows.terminal, ?_⟩
    simp only [follows.outlet, Array.toList_push, Log.takeAll_append]
    rfl

/-- **A log has kept up with a console.** -/
structure LoggedConsole.Follows (log? : Option Log.Open) (before : Log.Outlet)
    (console : Console σ) (logged : LoggedConsole σ) : Prop where
  editor : logged.editor = console.editor
  stage : logged.stage.Follows log? before console.stage

/-- One scene of what a program does at a console: something may happen to the terminal, and then
the editor carries out an operation. -/
structure Scene (σ α : Type) where
  prepare : σ → σ := id
  operation : Editing α

namespace Console

/-- The console after something happened to the terminal. -/
def prepared (prepare : σ → σ) (console : Console σ) : Console σ :=
  { console with stage := { console.stage with terminal := prepare console.stage.terminal } }

/-- Play the scenes of a script one after the other, whether or not one of them fails. -/
def enact (device : Terminal σ) :
    List (Scene σ α) → Console σ → List (Except TerminalError α) × Console σ
  | [], console => ([], console)
  | scene :: rest, console =>
    let (result, reached) := (console.prepared scene.prepare).perform device scene.operation
    let (results, last) := reached.enact device rest
    (result :: results, last)

end Console

namespace LoggedConsole

/-- The console after something happened to the terminal, of which a log learns nothing. -/
def prepared (prepare : σ → σ) (console : LoggedConsole σ) : LoggedConsole σ :=
  { console with stage := { console.stage with terminal := prepare console.stage.terminal } }

/-- Play the scenes of a script with a log, if there is one. -/
def enact (log? : Option Log.Open) (device : Terminal σ) :
    List (Scene σ α) → LoggedConsole σ → List (Except TerminalError α) × LoggedConsole σ
  | [], console => ([], console)
  | scene :: rest, console =>
    let (result, reached) :=
      (console.prepared scene.prepare).perform log? device scene.operation
    let (results, last) := reached.enact log? device rest
    (result :: results, last)

namespace Follows
variable {console : Console σ} {logged : LoggedConsole σ}
  (follows : logged.Follows log? before console)
include follows

/-- A terminal that is prepared for a scene changes nothing about the log. -/
theorem prepared (prepare : σ → σ) :
    (logged.prepared prepare).Follows log? before (console.prepared prepare) :=
  ⟨follows.editor, congrArg prepare follows.stage.terminal, follows.stage.outlet⟩

/-- **A logged operation does what the plain one does**, and its events go on to the log. -/
theorem perform (device : Terminal σ) (operation : Editing α) :
    (logged.perform log? device operation).1 = (console.perform device operation).1 ∧
      (logged.perform log? device operation).2.Follows log? before
        (console.perform device operation).2 := by
  obtain ⟨reached, stage⟩ :=
    (Editing.dialogue operation console.editor).play_follows device follows.stage
  unfold LoggedConsole.perform
  rw [follows.editor]
  exact ⟨congrArg Prod.fst reached, congrArg Prod.snd reached, stage⟩

/-- **A script comes to the same with a log**, and the log keeps up. -/
theorem enact (device : Terminal σ) (script : List (Scene σ α)) :
    (logged.enact log? device script).1 = (console.enact device script).1 ∧
      (logged.enact log? device script).2.Follows log? before
        (console.enact device script).2 := by
  induction script generalizing console logged with
  | nil => exact ⟨rfl, follows⟩
  | cons scene rest ih =>
    obtain ⟨result, reached⟩ := (follows.prepared scene.prepare).perform device scene.operation
    obtain ⟨results, last⟩ := ih reached
    exact ⟨List.cons_eq_cons.mpr ⟨result, results⟩, last⟩

end Follows

/-- **A log is a filter**, with every backend that is as documented. Whatever a script does, its
results, the editor and the terminal do not depend on the log. If the file of a path can be opened,
every log that is to go there is set up and can be put in force, whether or not it goes to a display
too. After the script the file holds what it held before and then the records of the events that
pass the threshold, in the order in which they were noted; the lowest threshold lets all events
pass. No other file is changed. -/
theorem enact_filters {backend : Log.Backend} (documented : backend.Documented) {path : String}
    {before opened : File.Tree} {place : File.Place}
    (opens : backend.openPath path before = (.ok place, opened)) (device : Terminal σ)
    (script : List (Scene σ α)) (editor : Editor) (terminal : σ) :
    let session (log? : Option Log.Open) (files : File.Tree) :=
      enact log? device script { editor, stage := { terminal, outlet := { files } } }
    let plain := Console.enact device script { editor, stage := { terminal } }
    let events := plain.2.stage.events.toList
    let written := backend.record .plain
    (∀ log? files, (session log? files).1 = plain.1 ∧
      (session log? files).2.editor = plain.2.editor ∧
      (session log? files).2.stage.terminal = plain.2.stage.terminal) ∧
    (∀ config : Log.Config, config.writer.path? = some path →
      ∃ log, config.setUpWith backend before = (.ok (some log), opened) ∧
        config.installWith backend none before = (.ok (some log), opened) ∧
        (session (some log) opened).2.stage.outlet.files.text? place = some
          ((before.text? place).getD "" ++ Log.records written config.threshold events) ∧
        ∀ other, other ≠ place →
          (session (some log) opened).2.stage.outlet.files.text? other = before.text? other) ∧
    Log.records written ⟨some .trace⟩ events = String.join (events.map written) := by
  intro session plain events written
  have follows (log? : Option Log.Open) (files : File.Tree) :
      (session log? files).1 = plain.1 ∧
        (session log? files).2.Follows log? { files } plain.2 := by
    apply Follows.enact
    exact ⟨rfl, rfl, rfl⟩
  refine ⟨?same, ?records, Log.records_trace written events⟩
  case same =>
    intro log? files
    obtain ⟨results, kept⟩ := follows log? files
    exact ⟨results, kept.editor, kept.stage.terminal⟩
  case records =>
    intro config asked
    have keeps :=
      Log.Open.keeps_toFile documented config.writer.display? place config.threshold
    have file := Log.opens_openPath documented opens
    let log := Log.Open.toFile backend config.writer.display? place config.threshold
    have taken : (session (some log) opened).2.stage.outlet =
        Log.takeAll (some log) events { files := opened } :=
      (follows (some log) opened).2.stage.outlet
    refine ⟨log, Log.setUp_of_opens opens asked, Log.install_of_opens opens asked, ?_, ?_⟩
    · rw [taken]
      exact keeps.text?_takeAll file.text events
    · intro other different
      rw [taken, keeps.text?_takeAll_of_ne different]
      exact file.others other different

/-- With the backend that comes with the library, a line of one character is entered while the log
goes to a display and to a file that has a line already. Of the three events one passes. -/
theorem enact_filters_debug :
    let before := File.Tree.empty.withFile "l.log" "old\n"
    let place : File.Place := ["working folder", "l.log"]
    let config : Log.Config :=
      { writer := .displayAndFile .stderr "l.log", threshold := ⟨some .debug⟩ }
    let terminal : Script :=
      { inputs := [.key (.ofChar 'a'), .key (.ofCode .enter)], width := 80 }
    let script : List (Scene Script (Option Reading)) :=
      [{ operation := Editing.readLine 3 "> " }]
    Log.Backend.standard.Documented ∧ Log.openPath "l.log" before = (.ok place, before) ∧
      ∃ log, config.setUp before = (.ok (some log), before) ∧
        (enact (some log) Script.terminal script
          { editor := .standard, stage := { terminal, outlet := { files := before } } }
          ).2.stage.outlet.files.text? place = some ("old\n" ++
            "DEBUG r3bl_line_editor::line_editor_impl::line_editor::core: " ++
            "line committed len=1 history_len=1\n") := by
  intro before place config terminal script
  have opens : Log.openPath "l.log" before = (.ok place, before) := rfl
  have documented := Log.Backend.documented_standard
  have filters := enact_filters documented opens Script.terminal script .standard terminal
  dsimp only at filters
  obtain ⟨-, records, -⟩ := filters
  obtain ⟨log, setUp, -, text, -⟩ := records config rfl
  refine ⟨documented, opens, log, setUp, text.trans ?_⟩
  decide +kernel

end LoggedConsole

end PromptLine
