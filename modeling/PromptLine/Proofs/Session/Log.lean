import Mathlib.Data.List.Basic
import PromptLine.Proofs.Session.Passage
import PromptLine.Terminal.Faulty

/-!
# What a session notes

The log of a session tells what happened in it (`PromptLine.Console.readLine_log`): every key that
was handed to the editor and every change of the width that a line was fitted to, in this order, and
then how the session came to its end.

What a session notes is compared with what happens in it, step by step.
-/

namespace PromptLine

/-- How an incident is noted. -/
def Incident.event : Incident → Event
  | .handed key editor => editor.noticeOf key
  | .resized before after =>
    .resized before.width after.width before.firstRow after.firstRow

/-- What is noted of a failure. -/
def Event.warnings {α : Type} : Except TerminalError α → List Event
  | .ok _ => []
  | .error failure => [.failed failure]

/-- A result that is changed afterwards warns of the same failure. -/
theorem Event.warnings_map {α β : Type} (change : α → β) (result : Except TerminalError α) :
    warnings (change <$> result) = warnings result := by
  cases result with
  | ok value => rfl
  | error failure => rfl

namespace Editing

/-! ### What the steps of a session note -/

/-- Nothing is noted while a session begins. -/
theorem ensures_begin_events (prompt : String) (editor : Editor) :
    (begin prompt).Ensures editor fun course _ _ => Moment.events course = [] :=
  ((allowsPaint_silent { editor with line := Line.start prompt }).begin rfl).mono
    fun _ _ _ kept => Moment.events_eq_nil kept.2

/-- A change of the width is noted, even if the cursor cannot be put in its place then. -/
theorem ensures_refreshGeometry_events (editor : Editor) :
    refreshGeometry.Ensures editor fun course _ after =>
      Moment.events course = (Incident.ofFitting editor after).map Incident.event := by
  have unchanged : [] = (Incident.ofFitting editor editor).map Incident.event := by
    rw [Incident.ofFitting_self]
    rfl
  unfold refreshGeometry
  rw [ensures_get_bind]
  cases located : editor.geometry with
  | none => exact unchanged
  | some geometry =>
    dsimp only
    rw [ensures_bind]
    refine (ensures_refreshed _ geometry).mpr ?_
    rintro (failure | width)
    · exact unchanged
    dsimp only
    by_cases same : width = geometry.width
    · rw [if_pos same]
      exact unchanged
    rw [if_neg same]
    by_cases zero : width = 0
    · rw [if_pos zero]
      exact unchanged
    rw [if_neg zero]
    rintro (failure | row)
    · exact unchanged
    dsimp only
    rw [ensures_bind, ensures_set]
    -- The change was noted and taken over. What is left is a call that may fail.
    refine ((ensures_placeCursor _).and
      ((allowsPaint_silent _).placeCursor (refl_of Editor.Repaints _))).mono ?_
    rintro course result after ⟨rfl, -, silent⟩
    rw [Incident.ofFitting_of_ne located rfl same, List.nil_append, Moment.events_append,
      Moment.events_eq_nil silent]
    rfl

/-- A key is noted when it is handed to the editor, whether or not it can be painted then. -/
theorem ensures_handle_events (key : Key) (editor : Editor) :
    (do handle key; call .flush).Ensures editor fun course _ _ =>
      Moment.events course = [editor.noticeOf key] := by
  rw [ensures_bind, ensures_handle]
  refine ((allowsPaint_silent _).paint (refl_of Editor.Repaints _) _).mono ?_
  rintro course (failure | _) after ⟨-, silent⟩
  · rw [Moment.events_noted, Moment.events_eq_nil silent]
  · refine (ensures_call .flush).mpr fun reply => ?_
    rw [Moment.events_append, Moment.events_noted, Moment.events_eq_nil silent]
    rfl

end Editing

namespace Console

variable {σ α : Type}

/-- What an operation is known to note is what it adds to the log of a quiet terminal. -/
theorem events_of_ensures {device : Terminal σ} (quiet : device.IsQuiet) {operation : Editing α}
    {console last : Console σ} {result : Except TerminalError α}
    {noted : Except TerminalError α → Editor → List Event}
    (ensures : operation.Ensures console.editor fun course result after =>
      Moment.events course = noted result after)
    (performed : console.perform device operation = (result, last)) :
    last.stage.events.toList = console.stage.events.toList ++ noted result last.editor := by
  have added := console.events_perform quiet operation
  have known := console.perform_of_ensures device ensures
  rw [known, performed] at added
  exact added

section Log
variable {device : Terminal σ} (quiet : device.IsQuiet) {prompt : String}
  {start console last : Console σ} {incidents : List Incident}
include quiet

/-- Nothing is noted when a key is read from a quiet terminal. -/
theorem events_read {read : Console σ} {reply : Except TerminalError (Option Key)}
    (heard : console.perform device (Editing.call (.readKey true)) = (reply, read)) :
    read.stage.events.toList = console.stage.events.toList := by
  have silent : (Editing.call (.readKey true)).Ensures console.editor fun course _ _ =>
      Moment.events course = [] := fun _ => rfl
  rw [events_of_ensures quiet silent heard, List.append_nil]

/-- A key that is handed to the editor is noted after the change of the width, if there was one. -/
theorem events_round {key : Key} {read fitted : Console σ} {result : Except TerminalError Unit}
    (heard : console.perform device (Editing.call (.readKey true)) = (.ok (some key), read))
    (fits : read.perform device Editing.refreshGeometry = (.ok (), fitted))
    (handles : fitted.perform device (do Editing.handle key; Editing.call .flush) =
      (result, last)) :
    last.stage.events.toList = console.stage.events.toList ++
      (Incident.ofFitting read.editor fitted.editor ++ [Incident.handed key fitted.editor]).map
        Incident.event := by
  have fitting := events_of_ensures quiet (Editing.ensures_refreshGeometry_events _) fits
  have handling := events_of_ensures quiet (Editing.ensures_handle_events _ _) handles
  rw [handling, fitting, events_read quiet heard, List.append_assoc, List.map_append]
  rfl

/-- **While a session unfolds**, its incidents are noted. -/
theorem Unfolds.events (unfolds : Unfolds device prompt start incidents console) :
    console.stage.events.toList = start.stage.events.toList ++ incidents.map Incident.event := by
  induction unfolds with
  | begun begun =>
    exact events_of_ensures quiet (Editing.ensures_begin_events prompt start.editor) begun
  | heard earlier goesOn heard fits handles ih =>
    rw [events_round quiet heard fits handles, ih, List.append_assoc, List.append_assoc,
      ← List.map_append]

end Log

/-- **How the log of a session ends**, by the result of the session. An entered line is noted with
its length and the number of entries that there are then, right after the oldest entry if that had
to go. At the end of the input it is noted how much was dropped. A failure is noted, and nothing is
noted of a line that could not be committed. -/
def Closes (device : Terminal σ) (prompt : String) (start : Console σ)
    (incidents : List Incident) :
    Except TerminalError (Option Reading) → History → List Event → Prop
  | .ok (some (.line text)), history, closing => ∃ evicted : Option String,
    start.editor.entriesWith text = evicted.toList ++ history.entries ∧
      closing = evicted.toList.map (.evicted · start.editor.history.capacity) ++
        [.committed text.length history.length]
  | .ok (some .endOfInput), _, closing => ∃ length,
    InputEnds device prompt start incidents length ∧ closing = [.endOfInput length]
  | .ok none, _, closing => closing = []
  | .error failure, _, closing => closing = [.failed failure] ∨ ∃ length,
    InputEnds device prompt start incidents length ∧
      closing = [.endOfInput length, .failed failure]

section Log
variable {device : Terminal σ} (quiet : device.IsQuiet) {prompt : String}
  {start console last : Console σ} {incidents : List Incident}
include quiet

/-- A commit enters the line and notes that, or fails and notes nothing. -/
theorem closes_commit {result : Except TerminalError Reading}
    (unfolds : Unfolds device prompt start incidents console)
    (commits : console.perform device Editing.commit = (result, last)) : ∃ closing,
    last.stage.events.toList = console.stage.events.toList ++ closing ∧
      Closes device prompt start incidents (some <$> result) last.editor.history
        (closing ++ Event.warnings result) := by
  have added := console.events_perform quiet Editing.commit
  have known := console.perform_of_ensures device (Editing.ensures_commit console.editor)
  rw [commits] at added known
  refine ⟨_, added, ?_⟩
  cases result with
  | error failure =>
    rw [known.2]
    exact Or.inl rfl
  | ok reading =>
    obtain ⟨rfl, repaints, noted⟩ := known
    have kept := unfolds.keepsHistory
    obtain ⟨evicted, entries, evictions⟩ :=
      console.editor.exists_evicted console.editor.line.content
    refine ⟨evicted, ?_, ?_⟩
    · rw [kept.entriesWith_eq, entries, repaints.history_eq]
    · rw [noted, evictions, kept.history.capacity]
      exact List.append_nil _

/-- At the end of the input it is noted how much is dropped, even if the terminal fails then. -/
theorem closes_abandon {read : Console σ} {result : Except TerminalError Reading}
    (unfolds : Unfolds device prompt start incidents console)
    (goesOn : ¬ console.editor.line.finished)
    (heard : console.perform device (Editing.call (.readKey true)) = (.ok none, read))
    (abandons : read.perform device Editing.abandon = (result, last)) : ∃ closing,
    last.stage.events.toList = console.stage.events.toList ++ closing ∧
      Closes device prompt start incidents (some <$> result) last.editor.history
        (closing ++ Event.warnings result) := by
  have same : console.editor = read.editor := congrArg (fun reached => reached.2.editor) heard
  have ends : InputEnds device prompt start incidents read.editor.line.length :=
    ⟨console, read, unfolds, goesOn, heard, same ▸ rfl⟩
  have added := read.events_perform quiet Editing.abandon
  obtain ⟨-, ended, noted⟩ := read.perform_of_ensures device (Editing.ensures_abandon read.editor)
  rw [abandons, noted, events_read quiet heard] at added
  rw [abandons] at ended
  refine ⟨_, added, ?_⟩
  -- The end of the input is noted before the calls, so it stands in the log in both cases.
  cases result with
  | error failure => exact Or.inr ⟨_, ends, rfl⟩
  | ok reading =>
    cases ended reading rfl
    exact ⟨_, ends, rfl⟩

/-- **When a session stops**, its incidents are noted, and how it came to its end. The failure is
noted last. -/
theorem Stops.events {result : Except TerminalError (Option Reading)}
    (stops : Stops device prompt start incidents result last) : ∃ closing,
    last.stage.events.toList =
        start.stage.events.toList ++ (incidents.map Incident.event ++ closing) ∧
      Closes device prompt start incidents result last.editor.history
        (closing ++ Event.warnings result) := by
  cases stops with
  | notBegun failed =>
    have begins := events_of_ensures quiet (Editing.ensures_begin_events prompt start.editor) failed
    exact ⟨[], begins, Or.inl rfl⟩
  | entered unfolds finished commits =>
    obtain ⟨closing, added, closes⟩ := closes_commit quiet unfolds commits
    rw [unfolds.events quiet, List.append_assoc] at added
    exact ⟨closing, added, (Event.warnings_map some _).symm ▸ closes⟩
  | ended unfolds goesOn heard abandons =>
    obtain ⟨closing, added, closes⟩ := closes_abandon quiet unfolds goesOn heard abandons
    rw [unfolds.events quiet, List.append_assoc] at added
    exact ⟨closing, added, (Event.warnings_map some _).symm ▸ closes⟩
  | waiting unfolds goesOn =>
    refine ⟨[], ?_, rfl⟩
    rw [unfolds.events quiet, List.append_nil]
  | notHeard unfolds goesOn failed =>
    refine ⟨[], ?_, Or.inl rfl⟩
    rw [events_read quiet failed, unfolds.events quiet, List.append_nil]
  | notFitted unfolds goesOn heard failed =>
    have fitting := events_of_ensures quiet (Editing.ensures_refreshGeometry_events _) failed
    refine ⟨[], ?_, Or.inl rfl⟩
    rw [fitting, events_read quiet heard, unfolds.events quiet, List.append_assoc,
      ← List.map_append, List.append_nil]
  | notPainted unfolds goesOn heard fits failed =>
    refine ⟨[], ?_, Or.inl rfl⟩
    rw [events_round quiet heard fits failed, unfolds.events quiet, List.append_assoc,
      List.append_assoc, ← List.map_append, List.append_nil]

end Log

end Console

/-! ### What is counted in a log -/

/-- The messages with which incidents are noted: those of keys, and that of a change of the width.
-/
def Incident.messages (handed : Bool) : List String :=
  if handed then ["dispatch", "insert", "ignored"] else ["terminal resized"]

/-- Whatever is noted about a key is a trace with one of three texts. -/
theorem Editor.noticed (key : Key) (editor : Editor) :
    (editor.noticeOf key).severity = .trace ∧
      (editor.noticeOf key).message ∈ Incident.messages true := by
  unfold noticeOf
  split
  · exact ⟨rfl, List.mem_cons_self⟩
  split
  · exact ⟨rfl, List.mem_cons_of_mem _ List.mem_cons_self⟩
  · exact ⟨rfl, List.mem_cons_of_mem _ (List.mem_cons_of_mem _ List.mem_cons_self)⟩

namespace Incident

/-- A key that is handed over is noted as a trace, and a change of the width for debugging. -/
theorem noted (incident : Incident) :
    (incident.event.severity = if incident.isHanded then .trace else .debug) ∧
      incident.event.message ∈ messages incident.isHanded := by
  cases incident with
  | handed key editor => exact editor.noticed key
  | resized before after => exact ⟨rfl, List.mem_cons_self⟩

/-- An incident is a trace just if a key is handed over in it. -/
theorem isTrace (incident : Incident) :
    (incident.event.severity == .trace) = incident.isHanded := by
  rw [incident.noted.1]
  cases incident.isHanded <;> rfl

/-- No incident is a warning. -/
theorem isCalm (incident : Incident) : (incident.event.severity == .warn) = false := by
  rw [incident.noted.1]
  cases incident.isHanded <;> rfl

/-- An incident is noted as a change of the width just if no key is handed over in it. -/
theorem isResize (incident : Incident) :
    (incident.event.message == "terminal resized") = !incident.isHanded := by
  have told : ∀ handed, ∀ message ∈ messages handed,
      (message == "terminal resized") = !handed := by decide
  exact told _ _ incident.noted.2

/-- No incident is noted as if the session had come to an outcome. -/
theorem message_ne (incident : Incident) : incident.event.message ≠ "line committed" ∧
    incident.event.message ≠ "end of input" ∧
    incident.event.message ≠ "history entry evicted" := by
  have told : ∀ handed, ∀ message ∈ messages handed, message ≠ "line committed" ∧
      message ≠ "end of input" ∧ message ≠ "history entry evicted" := by decide
  exact told _ _ incident.noted.2

/-- No incident is noted as an outcome of the session. -/
theorem goesOn (incident : Incident) : (incident.event.message == "line committed" ||
    incident.event.message == "end of input") = false := by
  rw [beq_false_of_ne incident.message_ne.1, beq_false_of_ne incident.message_ne.2.1]
  rfl

/-- The events of some kind, where it is known of which incidents these are. -/
theorem filter_map_event {kind : Event → Bool} {among : Incident → Bool}
    (same : ∀ incident : Incident, kind incident.event = among incident)
    (incidents : List Incident) :
    (incidents.map event).filter kind = (incidents.filter among).map event := by
  rw [List.filter_map]
  exact congrArg (List.map event) (List.filter_congr fun incident _ => same incident)

end Incident

/-- **A log that is faithful** to the incidents of a session and to its result. -/
structure Faithful (incidents : List Incident) (result : Except TerminalError (Option Reading))
    (log : List Event) : Prop where
  /-- There is one event for each key that was handed to the editor, in this order. -/
  keys : log.filter (·.severity == .trace) =
    (incidents.filter Incident.isHanded).map Incident.event
  /-- There is one for each change of the width. -/
  resizes : log.filter (·.message == "terminal resized") =
    (incidents.filter (!·.isHanded)).map Incident.event
  /-- The session came to one outcome at most. -/
  once : (log.filter fun event =>
    event.message == "line committed" || event.message == "end of input").length ≤ 1
  /-- There is one warning if the session failed. -/
  warnings : log.filter (·.severity == .warn) = Event.warnings result
  /-- A session that failed entered no line. -/
  abandoned : ∀ failure, result = .error failure → ∀ event ∈ log,
    event.message ≠ "line committed" ∧ event.message ≠ "history entry evicted"

/-- What happened before the end of a session, and is noted before it, leaves the log faithful. -/
theorem Faithful.after {result : Except TerminalError (Option Reading)} {closing : List Event}
    (faithful : Faithful [] result closing) (incidents : List Incident) :
    Faithful incidents result (incidents.map Incident.event ++ closing) := by
  constructor
  · rw [List.filter_append, Incident.filter_map_event Incident.isTrace, faithful.keys]
    exact List.append_nil _
  · rw [List.filter_append, Incident.filter_map_event Incident.isResize, faithful.resizes]
    exact List.append_nil _
  · rw [List.filter_append, Incident.filter_map_event Incident.goesOn, List.filter_false]
    exact faithful.once
  · rw [List.filter_append, Incident.filter_map_event Incident.isCalm, List.filter_false]
    exact faithful.warnings
  · intro failure failed event member
    rcases List.mem_append.mp member with early | late
    · obtain ⟨incident, -, rfl⟩ := List.mem_map.mp early
      exact ⟨incident.message_ne.1, incident.message_ne.2.2⟩
    · exact faithful.abandoned failure failed event late

/-! ### Terminals that note nothing -/

/-- A scripted terminal notes nothing of its own. -/
theorem Script.isQuiet_terminal : Script.terminal.IsQuiet := by
  have screen (operation : Operation) (script : Script) :
      (script.screen operation).events = [] := by
    unfold Script.screen
    split <;> rfl
  intro call script
  cases call with
  | readKey | cursorRow | width | flush => rfl
  | write | writeLine | move | foreground | resetColor => exact screen _ script

/-- Faults do not make a terminal note anything. -/
theorem Faulty.isQuiet_terminal {σ : Type} {device : Terminal σ} (quiet : device.IsQuiet) :
    (Faulty.terminal device).IsQuiet := by
  intro call faulty
  unfold Faulty.terminal Faulty.answer
  dsimp only
  split
  · rfl
  · exact quiet call faulty.inner

namespace Console

variable {σ : Type} {device : Terminal σ} {prompt : String} {start : Console σ}
  {incidents : List Incident}

/-- There are two ways in which a log may end. -/
theorem Closes.forms {result : Except TerminalError (Option Reading)} {history : History}
    {closing : List Event} (closes : Closes device prompt start incidents result history closing) :
    (∃ reading, result = .ok reading ∧ ∃ (evicted : Option String) (capacity length count : Nat),
      closing = evicted.toList.map (.evicted · capacity) ++ [.committed length count]) ∨
    ∃ discarded : Option Nat,
      closing = discarded.toList.map Event.endOfInput ++ Event.warnings result := by
  match result, closes with
  | .ok (some (.line text)), ⟨evicted, _, ends⟩ =>
    exact Or.inl ⟨_, rfl, evicted, _, _, _, ends⟩
  | .ok (some .endOfInput), ⟨length, _, ends⟩ => exact Or.inr ⟨some length, ends⟩
  | .ok none, ends => exact Or.inr ⟨none, ends⟩
  | .error failure, .inl ends => exact Or.inr ⟨none, ends⟩
  | .error failure, .inr ⟨length, _, ends⟩ => exact Or.inr ⟨some length, ends⟩

/-- The end of a log is faithful to the result. -/
theorem Closes.faithful {result : Except TerminalError (Option Reading)} {history : History}
    {closing : List Event} (closes : Closes device prompt start incidents result history closing) :
    Faithful [] result closing := by
  rcases closes.forms with ⟨reading, rfl, evicted, capacity, length, count, rfl⟩ | ⟨discarded, rfl⟩
  · cases evicted with
    | none => exact ⟨rfl, rfl, Nat.le_refl 1, rfl, nofun⟩
    | some entry => exact ⟨rfl, rfl, Nat.le_refl 1, rfl, nofun⟩
  cases result with
  | ok reading =>
    cases discarded with
    | none => exact ⟨rfl, rfl, Nat.zero_le 1, rfl, nofun⟩
    | some length => exact ⟨rfl, rfl, Nat.le_refl 1, rfl, nofun⟩
  | error failure =>
    cases discarded with
    | none =>
      refine ⟨rfl, rfl, Nat.zero_le 1, rfl, fun _ _ => ?_⟩
      simp [Event.warnings, Event.message]
    | some length =>
      refine ⟨rfl, rfl, Nat.le_refl 1, rfl, fun _ _ => ?_⟩
      simp [Event.warnings, Event.message]

/-- **The log of a session.** On a terminal that notes nothing of its own, a session notes its
incidents, one event for each, and then how it came to its end. So there is one event for each key
that was handed to the editor and one for each change of the width, in the order in which they
happened; a line that was entered is noted last, right after the entry that had to go for it; the
end of the input is noted with what was dropped; and a failure is the last event and the only
warning, with no line and no entry noted before it. -/
theorem readLine_log (quiet : device.IsQuiet) (keys : Nat) (prompt : String)
    (start : Console σ) :
    let ended := start.perform device (Editing.readLine keys prompt)
    ∃ incidents last closing,
      Stops device prompt start incidents ended.1 last ∧
      ended.2.editor = last.editor ∧
      ended.2.stage.events.toList =
        start.stage.events.toList ++ (incidents.map Incident.event ++ closing) ∧
      Closes device prompt start incidents ended.1 ended.2.editor.history closing ∧
      Faithful incidents ended.1 (incidents.map Incident.event ++ closing) := by
  intro ended
  obtain ⟨incidents, stops⟩ := stops_session device start keys prompt
  obtain ⟨closing, events, closes⟩ := stops.events quiet
  rcases outcome : start.perform device (do Editing.begin prompt; Editing.handleKeys keys) with
    ⟨failure | reading, last⟩
  all_goals
    rw [outcome] at stops events closes
    have performed : ended = _ := start.perform_tryCatch device _ _
    rw [outcome] at performed
  · -- The failure is noted before it is passed on, and nothing else happens to the console.
    rw [performed]
    refine ⟨incidents, last, _, stops, rfl, ?_, closes, closes.faithful.after incidents⟩
    refine (Array.toList_push ..).trans ?_
    rw [events, List.append_assoc, List.append_assoc]
    rfl
  · rw [performed]
    rw [Event.warnings, List.append_nil] at closes
    exact ⟨incidents, last, closing, stops, rfl, events, closes, closes.faithful.after incidents⟩

/-- The input ends after two characters, with a change of the width between them, and the terminal
fails when the line is to be left: the end of the input and the failure are both noted. -/
theorem readLine_log_interrupted :
    let device := Faulty.terminal Script.terminal
    let start : Console (Faulty Script) :=
      { editor := .standard
        stage := { terminal :=
          { faults := [{ call := .writeLine, after := 0, kind := .brokenPipe }]
            inner :=
              { inputs := [.key (.ofChar 'a'), .resize 5, .key (.ofChar 'b')], width := 10 } } } }
    let log : List Event := [.inserted 'a', .resized 10 5 0 0, .inserted 'b', .endOfInput 2,
      .failed (.io .brokenPipe)]
    device.IsQuiet ∧
      (start.perform device (Editing.readLine 3 "> ")).1 = .error (.io .brokenPipe) ∧
      (start.perform device (Editing.readLine 3 "> ")).2.stage.events.toList = log ∧
      ∃ incidents, Faithful incidents (.error (.io .brokenPipe)) log := by
  intro device start log
  have quiet : device.IsQuiet := Faulty.isQuiet_terminal Script.isQuiet_terminal
  have failed : (start.perform device (Editing.readLine 3 "> ")).1 =
      .error (.io .brokenPipe) := by
    decide +kernel
  have noted : (start.perform device (Editing.readLine 3 "> ")).2.stage.events.toList = log := by
    decide +kernel
  have told := readLine_log quiet 3 "> " start
  dsimp only at told
  rw [failed, noted] at told
  obtain ⟨incidents, last, closing, -, -, events, -, faithful⟩ := told
  exact ⟨quiet, failed, noted, incidents, events.symm ▸ faithful⟩

end Console

end PromptLine
