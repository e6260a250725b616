import Mathlib.Order.Defs.Unbundled
import PromptLine.Proofs.Dialogue.Course

/-!
# What handling a key changes

A key changes the editor before anything is painted: `Editor.handled` is the editor that it leaves
and what of the line has to be painted then, and `Editing.dialogue_handle` says that handling a key
is noting it, taking that editor and painting. Everything the terminal can see of a key is in the
painting.

An operation respects a relation if it never leaves an editor that is not related to the one it
started from. Operations built from others respect what these respect.
-/

namespace PromptLine

namespace Line

/-- The second line is the first one with another text and another place of the cursor. -/
def Rewrites (before after : Line) : Prop :=
  after = { before with text := after.text, cursor := after.cursor }

section Steps
variable {line next : Line}

/-- The prompt of a line that is rewritten stays. -/
theorem Rewrites.prompt_eq (rewrites : line.Rewrites next) : next.prompt = line.prompt := by
  rw [rewrites]

/-- A line that is rewritten is as finished as before. -/
theorem Rewrites.finished_eq (rewrites : line.Rewrites next) :
    next.finished = line.finished := by
  rw [rewrites]

/-- A cursor that moves to the left goes back by one. -/
theorem eq_of_left? (moved : line.left? = some next) :
    next = { line with cursor := line.cursor - 1 } :=
  (Option.some.inj (Option.ite_none_left_eq_some.mp moved).2).symm

/-- A cursor that moves to the right goes on by one. -/
theorem eq_of_right? (moved : line.right? = some next) :
    next = { line with cursor := line.cursor + 1 } :=
  (Option.some.inj (Option.ite_none_left_eq_some.mp moved).2).symm

/-- The backspace key takes the character before the cursor, and the cursor goes back by one. -/
theorem eq_of_backspace? (shorter : line.backspace? = some next) : next = { line with
    text := line.text.eraseIdx (line.cursor - 1), cursor := line.cursor - 1 } :=
  (Option.some.inj (Option.ite_none_left_eq_some.mp shorter).2).symm

/-- The delete key takes the character at the cursor, which stays. -/
theorem eq_of_delete? (shorter : line.delete? = some next) :
    next = { line with text := line.text.eraseIdx line.cursor } :=
  (Option.some.inj (Option.ite_none_left_eq_some.mp shorter).2).symm

/-- A cursor that moves to the left rewrites the line. -/
theorem rewrites_of_left? (moved : line.left? = some next) : line.Rewrites next := by
  rw [eq_of_left? moved]
  rfl

/-- A cursor that moves to the right rewrites the line. -/
theorem rewrites_of_right? (moved : line.right? = some next) : line.Rewrites next := by
  rw [eq_of_right? moved]
  rfl

/-- The backspace key rewrites the line. -/
theorem rewrites_of_backspace? (shorter : line.backspace? = some next) : line.Rewrites next := by
  rw [eq_of_backspace? shorter]
  rfl

/-- The delete key rewrites the line. -/
theorem rewrites_of_delete? (shorter : line.delete? = some next) : line.Rewrites next := by
  rw [eq_of_delete? shorter]
  rfl

end Steps

end Line

namespace Editor

/-- The editor after a key, and what has to be painted. -/
def handled (key : Key) (editor : Editor) : Editor × Editing.Paint :=
  match editor.bindings.find? key with
  | some action => Editing.edited editor action
  | none =>
    if key.isPrintable then
      ({ editor with line := editor.line.insertChar key.character }, .line)
    else (editor, .nothing)

/-- The event that is noted when an editor handles a key. -/
def noticeOf (key : Key) (editor : Editor) : Event :=
  match editor.bindings.find? key with
  | some action => .dispatched action key
  | none => if key.isPrintable then .inserted key.character else .ignored key

/-- A key changes nothing but the line and the history. -/
theorem handled_eq (key : Key) (editor : Editor) :
    (editor.handled key).1 = { editor with
      line := (editor.handled key).1.line
      history := (editor.handled key).1.history } := by
  unfold handled
  cases editor.bindings.find? key with
  | some action =>
    cases action <;> simp only [Editing.edited, Editing.withLine?, Editing.withEntry]
    all_goals
      try split
      all_goals rfl
  | none =>
    dsimp only
    split <;> rfl

/-- Before anything is painted, a line stands where it stood. -/
theorem geometry_handled (editor : Editor) (key : Key) :
    (editor.handled key).1.geometry = editor.geometry := by
  rw [handled_eq]

/-- No key changes what the keys mean. -/
theorem bindings_handled (editor : Editor) (key : Key) :
    (editor.handled key).1.bindings = editor.bindings := by
  rw [handled_eq]

/-- What a key does depends neither on the place of the line on the screen nor on the bindings of
other keys. -/
theorem handled_with (key : Key) (editor : Editor) {bindings : Bindings}
    (geometry : Option Geometry) (same : bindings.find? key = editor.bindings.find? key) :
    handled key { editor with geometry := geometry, bindings := bindings } =
      ({ (editor.handled key).1 with geometry := geometry, bindings := bindings },
        (editor.handled key).2) := by
  unfold handled
  dsimp only
  rw [same]
  cases editor.bindings.find? key with
  | some action =>
    cases action <;> simp only [Editing.edited, Editing.withLine?, Editing.withEntry]
    all_goals
      try split
      all_goals rfl
  | none =>
    dsimp only
    split <;> rfl

/-- An edit that rewrites the line, if there is one. -/
theorem rewrites_withLine? {line : Line} {editor : Editor} {paint : Editing.Paint}
    {line? : Option Line} (same : editor.line = line)
    (rewrites : ∀ next, line? = some next → line.Rewrites next) :
    line.Rewrites (Editing.withLine? editor paint line?).1.line := by
  cases line? with
  | none => exact same ▸ rfl
  | some next => exact rewrites next rfl

/-- Going to an entry rewrites the line, if there is one. -/
theorem rewrites_withEntry (editor : Editor) (browsed : Option String × History) :
    editor.line.Rewrites (Editing.withEntry editor browsed).1.line := by
  refine rewrites_withLine? rfl ?_
  intro next shown
  obtain ⟨entry, -, rfl⟩ := Option.map_eq_some_iff.mp shown
  rfl

/-- An action rewrites the line, unless it enters it. -/
theorem rewrites_edited (editor : Editor) {action : Action} (goesOn : action ≠ .enter) :
    editor.line.Rewrites (Editing.edited editor action).1.line := by
  cases action with
  | enter => exact absurd rfl goesOn
  | escape | home | toEnd | tab => exact rfl
  | historyPrevious | historyNext => exact rewrites_withEntry editor _
  | moveLeft => exact rewrites_withLine? rfl fun _ => Line.rewrites_of_left?
  | moveRight => exact rewrites_withLine? rfl fun _ => Line.rewrites_of_right?
  | backspace => exact rewrites_withLine? rfl fun _ => Line.rewrites_of_backspace?
  | delete => exact rewrites_withLine? rfl fun _ => Line.rewrites_of_delete?

/-- A key rewrites the line, unless it is bound to entering it. -/
theorem rewrites_handled (editor : Editor) {key : Key}
    (goesOn : editor.bindings.find? key ≠ some .enter) :
    editor.line.Rewrites (editor.handled key).1.line := by
  unfold handled
  cases bound : editor.bindings.find? key with
  | some action =>
    have other : action ≠ .enter := fun same => goesOn (bound.trans (congrArg some same))
    exact editor.rewrites_edited other
  | none =>
    dsimp only
    split <;> exact rfl

/-- A key that is bound to entering the line only marks it as entered. -/
theorem handled_of_enter {editor : Editor} {key : Key}
    (bound : editor.bindings.find? key = some .enter) :
    editor.handled key = ({ editor with line := editor.line.finish }, .nothing) := by
  unfold handled
  rw [bound]
  rfl

/-- No key changes the prompt. -/
theorem prompt_handled (editor : Editor) (key : Key) :
    (editor.handled key).1.line.prompt = editor.line.prompt := by
  by_cases bound : editor.bindings.find? key = some .enter
  · rw [handled_of_enter bound]
    rfl
  · exact (editor.rewrites_handled bound).prompt_eq

/-- The second editor is the first one with another place on the screen. -/
def Repaints (before after : Editor) : Prop := after = { before with geometry := after.geometry }

instance : IsPreorder Editor Repaints where
  refl _ := rfl
  trans first second third painted further := by
    unfold Repaints at *
    rw [further, painted]

/-- A geometry that is learnt anew changes no more than painting does. -/
theorem repaints_geometry (editor : Editor) (geometry : Option Geometry) :
    editor.Repaints { editor with geometry := geometry } := rfl

namespace Repaints
variable {before after : Editor}

/-- Painting leaves the line as it is. -/
theorem line_eq (repaints : before.Repaints after) : after.line = before.line := by
  rw [repaints]

/-- Painting leaves the history as it is. -/
theorem history_eq (repaints : before.Repaints after) : after.history = before.history := by
  rw [repaints]

/-- Painting leaves the bindings as they are. -/
theorem bindings_eq (repaints : before.Repaints after) : after.bindings = before.bindings := by
  rw [repaints]

/-- Painting leaves the settings as they are. -/
theorem settings_eq (repaints : before.Repaints after) : after.settings = before.settings := by
  rw [repaints]

/-- A key changes two editors alike that differ in their place on the screen. -/
theorem handled (repaints : before.Repaints after) (key : Key) :
    (before.handled key).1.Repaints (after.handled key).1 := by
  rw [repaints, handled_with key before after.geometry rfl, ← bindings_handled before key]
  rfl

end Repaints

end Editor

namespace Editing

variable {α β : Type}

/-- An operation that looks at the editor first. -/
theorem dialogue_get_bind (rest : Editor → Editing β) (editor : Editor) :
    dialogue (get >>= rest) editor = dialogue (rest editor) editor := by
  rw [dialogue_bind]
  rfl

/-- What asks for the editor ensures what it does with the one that there is. -/
theorem ensures_get_bind {rest : Editor → Editing β} {editor : Editor}
    {post : List Moment → Except TerminalError β → Editor → Prop} :
    Ensures (get >>= rest) editor post ↔ (rest editor).Ensures editor post := by
  unfold Ensures
  rw [dialogue_get_bind]

/-- **Handling a key.** The key is noted, the editor changes, and the change is painted. -/
theorem dialogue_handle (key : Key) (editor : Editor) :
    dialogue (handle key) editor =
      .note (editor.noticeOf key)
        (dialogue (paint (editor.handled key).2) (editor.handled key).1) := by
  unfold handle Editor.noticeOf Editor.handled
  rw [dialogue_get_bind]
  cases editor.bindings.find? key with
  | some action =>
    simp only [act, dialogue_bind, dialogue_note, dialogue_get, dialogue_set, Dialogue.note_bind,
      Dialogue.done_bind]
  | none =>
    by_cases printable : key.isPrintable
    · simp only [printable, ↓reduceIte, modifyLine, paint, dialogue_bind, dialogue_note,
        dialogue_modify, Dialogue.note_bind, Dialogue.done_bind]
    · simp only [printable, Bool.false_eq_true, ↓reduceIte, paint, dialogue_note, dialogue_pure]

/-- Handling a key ensures what painting ensures from the editor after the key. -/
theorem ensures_handle (key : Key) (editor : Editor)
    {post : List Moment → Except TerminalError Unit → Editor → Prop} :
    (handle key).Ensures editor post ↔
      (paint (editor.handled key).2).Ensures (editor.handled key).1 fun course =>
        post (.noted (editor.noticeOf key) :: course) := by
  unfold Ensures
  rw [dialogue_handle, Dialogue.ensures_note]

/-- An operation can be taken apart where the conversation can. -/
theorem talk_bind (conversation : Talk α) (rest : α → Talk β) :
    talk (conversation >>= rest) = talk conversation >>= fun value => talk (rest value) := by
  funext editor
  show dialogue (talk (conversation >>= rest)) editor = dialogue (talk conversation >>= _) editor
  rw [dialogue_bind, dialogue_talk, dialogue_talk, ExceptT.run_bind, Dialogue.bind_assoc,
    Dialogue.bind_assoc]
  congr 1
  funext result
  cases result with
  | error failure => rfl
  | ok value => exact (dialogue_talk (rest value) editor).symm

/-- Talking to the terminal leaves the editor as it is. -/
theorem ensures_talk (conversation : Talk α) (editor : Editor) :
    (talk conversation).Ensures editor fun _ _ after => after = editor := by
  unfold Ensures
  rw [dialogue_talk, Dialogue.ensures_bind]
  generalize conversation.run = dialogue
  induction dialogue with
  | done result => rfl
  | ask call next ih => exact fun reply => ih reply
  | note event next ih => exact ih

/-- The terminal is asked for its width and for the row of its cursor, and both are looked at
afterwards. -/
theorem ensures_capture {editor : Editor}
    {post : List Moment → Except TerminalError Geometry → Editor → Prop} :
    (talk Geometry.capture).Ensures editor post ↔ ∀ width? : Except TerminalError UInt16, match width? with
      | .error failure => post [.answered ⟨.width, .error failure⟩] (.error failure) editor
      | .ok width => ∀ row? : Except TerminalError UInt16, match row? with
        | .error failure =>
          post [.answered ⟨.width, .ok width⟩, .answered ⟨.cursorRow, .error failure⟩]
            (.error failure) editor
        | .ok row =>
          post [.answered ⟨.width, .ok width⟩, .answered ⟨.cursorRow, .ok row⟩]
            (Geometry.start row width) editor := by
  refine forall_congr' fun width? => ?_
  cases width? with
  | error failure => exact Iff.rfl
  | ok width =>
    refine forall_congr' fun row? => ?_
    cases row? with
    | error failure => exact Iff.rfl
    | ok row => exact Iff.rfl

/-- The terminal is asked for its width, and if that is a new one, which is not zero, for the row of
its cursor. -/
theorem ensures_refreshed {editor : Editor} (offset : Nat) (geometry : Geometry)
    {post : List Moment → Except TerminalError (Option Geometry) → Editor → Prop} :
    (talk (geometry.refreshed offset)).Ensures editor post ↔ ∀ width? : Except TerminalError UInt16, match width? with
      | .error failure => post [.answered ⟨.width, .error failure⟩] (.error failure) editor
      | .ok width =>
        if width = geometry.width then post [.answered ⟨.width, .ok width⟩] (.ok none) editor
        else if width = 0 then
          post [.answered ⟨.width, .ok width⟩] (.error .zeroWidth) editor
        else ∀ row? : Except TerminalError UInt16, match row? with
          | .error failure =>
            post [.answered ⟨.width, .ok width⟩, .answered ⟨.cursorRow, .error failure⟩]
              (.error failure) editor
          | .ok row =>
            let firstRow := Geometry.firstRowOf row offset width
            post [.answered ⟨.width, .ok width⟩, .answered ⟨.cursorRow, .ok row⟩,
                .noted (.resized geometry.width width geometry.firstRow firstRow)]
              (.ok (some { geometry with width, firstRow })) editor := by
  unfold Geometry.refreshed
  rw [talk_bind, ensures_bind]
  change (call .width).Ensures editor _ ↔ _
  rw [ensures_call]
  refine forall_congr' fun width? => ?_
  cases width? with
  | error failure => exact Iff.rfl
  | ok width =>
    dsimp only
    by_cases same : width = geometry.width
    · simp only [if_pos same]
      exact Iff.rfl
    by_cases zero : width = 0
    · simp only [if_neg same, if_pos zero]
      exact Iff.rfl
    simp only [if_neg same, if_neg zero]
    refine forall_congr' fun row? => ?_
    cases row? with
    | error failure => exact Iff.rfl
    | ok row => exact Iff.rfl

/-- Whatever the terminal answers, an operation leaves an editor that stands in a relation to the
one that it started from. -/
def Respects (relation : Editor → Editor → Prop) (operation : Editing α) : Prop :=
  ∀ editor, operation.Ensures editor fun _ _ after => relation editor after

namespace Respects

variable {relation : Editor → Editor → Prop} [IsPreorder Editor relation]

theorem pure (value : α) : Respects relation (Pure.pure value : Editing α) :=
  fun editor => refl_of relation editor

/-- Talking to the terminal leaves the editor alone. -/
theorem talk (conversation : Talk α) : Respects relation (Editing.talk conversation) :=
  fun editor => (ensures_talk conversation editor).mono fun _ _ _ same =>
    same ▸ refl_of relation editor

/-- Two operations in a row respect a relation that both respect. -/
theorem bind {operation : Editing α} {rest : α → Editing β} (first : Respects relation operation)
    (second : ∀ value, Respects relation (rest value)) :
    Respects relation (operation >>= rest) := by
  intro editor
  refine ensures_bind.mpr ((first editor).mono ?_)
  rintro course (failure | value) after related
  · exact related
  · exact (second value after).mono fun _ _ _ further => trans_of relation related further

end Respects

/-! ### Painting -/

/-- Putting the cursor in its place leaves the editor as it is. -/
theorem ensures_placeCursor (editor : Editor) :
    placeCursor.Ensures editor fun _ _ after => after = editor := by
  unfold placeCursor
  rw [ensures_get_bind]
  cases editor.geometry with
  | none => exact rfl
  | some geometry => exact fun reply => rfl

/-- Placing the cursor changes no more than painting does. -/
theorem respects_placeCursor : Respects Editor.Repaints placeCursor :=
  fun editor => (ensures_placeCursor editor).mono fun _ _ _ same => same ▸ rfl

/-- Painting the line changes no more than painting does. -/
theorem respects_repaint : Respects Editor.Repaints repaint := by
  intro editor
  unfold repaint
  rw [ensures_get_bind]
  cases editor.geometry with
  | none => exact rfl
  | some geometry =>
    dsimp only
    rw [ensures_bind, ensures_call]
    rintro (failure | _)
    · exact rfl
    dsimp only
    rw [ensures_bind, ensures_set]
    dsimp only
    rw [ensures_bind, ensures_call]
    rintro (failure | _)
    · exact rfl
    · exact (ensures_placeCursor _).mono fun _ _ _ same => same ▸ rfl

/-- Whatever has to be painted, the rest of the editor stays. -/
theorem respects_paint (changed : Paint) : Respects Editor.Repaints (paint changed) := by
  cases changed with
  | nothing => exact Respects.pure ()
  | cursor => exact respects_placeCursor
  | line => exact respects_repaint

/-- Finding out where the line stands changes no more than painting does. -/
theorem respects_captureGeometry : Respects Editor.Repaints captureGeometry := by
  refine Respects.bind (Respects.talk _) ?_
  intro geometry editor
  exact rfl

/-- Fitting the line to a new width changes no more than painting does. -/
theorem respects_refreshGeometry : Respects Editor.Repaints refreshGeometry := by
  intro editor
  unfold refreshGeometry
  rw [ensures_get_bind]
  cases editor.geometry with
  | none => exact rfl
  | some geometry =>
    dsimp only
    rw [ensures_bind]
    refine (ensures_talk _ editor).mono ?_
    rintro course (failure | (_ | resized)) after rfl
    · exact rfl
    · exact rfl
    · dsimp only
      rw [ensures_bind, ensures_set]
      exact (ensures_placeCursor _).mono fun _ _ _ same => same ▸ rfl

/-! ### The steps of a session -/

/-- A session begins with an empty line, whether or not the terminal fails. -/
theorem ensures_begin (prompt : String) (editor : Editor) :
    (begin prompt).Ensures editor fun _ _ after =>
      Editor.Repaints { editor with line := Line.start prompt } after := by
  unfold begin modifyLine
  rw [ensures_bind, ensures_modify]
  refine Respects.bind respects_captureGeometry (fun _ => ?_) _
  refine Respects.bind respects_repaint (fun _ => ?_)
  exact fun editor reply => rfl

/-- **One key of a session.** After a key that was responded to, the editor is the one that the key
leaves. If the terminal failed, the key may not have been handled. -/
theorem ensures_respond (key : Key) (editor : Editor) :
    (respond key).Ensures editor fun _ result after =>
      match result with
      | .ok _ => (editor.handled key).1.Repaints after
      | .error _ => editor.Repaints after ∨ (editor.handled key).1.Repaints after := by
  unfold respond
  rw [ensures_bind]
  refine (respects_refreshGeometry editor).mono ?_
  rintro course (failure | _) refreshed repaints
  · exact Or.inl repaints
  dsimp only
  rw [ensures_bind, ensures_handle]
  refine (respects_paint _ _).mono ?_
  rintro more (failure | _) painted further
  all_goals
    have handled : (editor.handled key).1.Repaints painted :=
      trans_of Editor.Repaints (repaints.handled key) further
  · exact Or.inr handled
  · rintro (failure | _)
    · exact Or.inr handled
    · exact handled

end Editing

end PromptLine
