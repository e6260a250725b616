import PromptLine.Proofs.Editor.Handling

/-!
# What an operation keeps to

An operation keeps to a rule if nothing happens but what is allowed, and it leaves an editor of some
kind, whether or not it fails (`PromptLine.Editing.KeepsTo`). An operation built from others keeps
to what these keep to.

Painting makes calls and notes nothing, so it keeps to a rule that allows these calls
(`PromptLine.Editing.AllowsPaint`). A rule that keys do not break either is kept to by every
response to a key (`PromptLine.Editing.Permits.respond`), and one that the ends of a session do not
break by whole sessions (`PromptLine.Editing.Upholds.readLine`).
-/

namespace PromptLine

namespace Editing

variable {α β : Type}

/-- **The operation keeps to a rule** when it starts from an editor: whatever the terminal answers,
nothing happens that is not allowed, and the editor that it leaves is of the kind that is kept. -/
def KeepsTo (kept : Editor → Prop) (allowed : Moment → Prop) (operation : Editing α)
    (editor : Editor) : Prop :=
  operation.Ensures editor fun course _ after => kept after ∧ ∀ moment ∈ course, allowed moment

namespace KeepsTo
variable {kept : Editor → Prop} {allowed : Moment → Prop} {operation : Editing α}
  {rest : α → Editing β} {editor : Editor}

/-- An operation in which nothing happens keeps to every rule for what happens. -/
theorem pure (value : α) (keeps : kept editor) :
    KeepsTo kept allowed (Pure.pure value) editor :=
  ⟨keeps, List.forall_mem_nil _⟩

theorem set {next : Editor} (keeps : kept next) :
    KeepsTo kept allowed (MonadStateOf.set next : Editing Unit) editor :=
  ⟨keeps, List.forall_mem_nil _⟩

theorem modify {change : Editor → Editor} (keeps : kept (change editor)) :
    KeepsTo kept allowed (MonadState.modifyGet fun editor => ((), change editor)) editor :=
  ⟨keeps, List.forall_mem_nil _⟩

theorem note {event : Event} (permitted : allowed (.noted event)) (keeps : kept editor) :
    KeepsTo kept allowed (Editing.note event) editor :=
  ⟨keeps, List.forall_mem_singleton.mpr permitted⟩

/-- A call may be made if it is allowed with every answer. -/
theorem call {c : Call} (permitted : ∀ reply, allowed (.answered ⟨c, reply⟩))
    (keeps : kept editor) : KeepsTo kept allowed (Editing.call c) editor :=
  fun reply => ⟨keeps, List.forall_mem_singleton.mpr (permitted reply)⟩

/-- Two operations in a row keep to the rule if both do. -/
theorem bind (first : KeepsTo kept allowed operation editor)
    (second : ∀ value after, kept after → KeepsTo kept allowed (rest value) after) :
    KeepsTo kept allowed (operation >>= rest) editor := by
  unfold KeepsTo
  rw [ensures_bind]
  refine first.mono ?_
  rintro course (failure | value) after ⟨keeps, within⟩
  · exact ⟨keeps, within⟩
  · refine (second value after keeps).mono ?_
    intro more result last further
    exact ⟨further.1, List.forall_mem_append.mpr ⟨within, further.2⟩⟩

theorem get_bind {rest : Editor → Editing β}
    (second : KeepsTo kept allowed (rest editor) editor) :
    KeepsTo kept allowed (get >>= rest) editor :=
  ensures_get_bind.mpr second

/-- An event is noted by the editor that goes on. -/
theorem note_bind {event : Event} {rest : Unit → Editing β} (permitted : allowed (.noted event))
    (second : KeepsTo kept allowed (rest ()) editor) :
    KeepsTo kept allowed (Editing.note event >>= rest) editor := by
  unfold KeepsTo
  rw [ensures_bind, ensures_note]
  refine Ensures.mono second ?_
  rintro course result after ⟨keeps, within⟩
  exact ⟨keeps, List.forall_mem_cons.mpr ⟨permitted, within⟩⟩

theorem map {change : α → β} (keeps : KeepsTo kept allowed operation editor) :
    KeepsTo kept allowed (change <$> operation) editor := by
  rw [map_eq_pure_bind]
  exact keeps.bind fun value _ kept => .pure _ kept

/-- A failure is handled from the editor that it leaves. -/
theorem tryCatch {handler : TerminalError → Editing α}
    (first : KeepsTo kept allowed operation editor)
    (second : ∀ failure after, kept after → KeepsTo kept allowed (handler failure) after) :
    KeepsTo kept allowed (MonadExcept.tryCatch operation handler) editor := by
  unfold KeepsTo
  rw [ensures_tryCatch]
  refine first.mono ?_
  rintro course (failure | value) after ⟨keeps, within⟩
  · refine (second failure after keeps).mono ?_
    intro more result last further
    exact ⟨further.1, List.forall_mem_append.mpr ⟨within, further.2⟩⟩
  · exact ⟨keeps, within⟩

end KeepsTo

/-- **A rule that painting does not break.** -/
structure AllowsPaint (kept : Editor → Prop) (allowed : Moment → Prop) : Prop where
  width : ∀ reply, allowed (.answered ⟨.width, reply⟩)
  cursorRow : ∀ reply, allowed (.answered ⟨.cursorRow, reply⟩)
  flush : ∀ reply, allowed (.answered ⟨.flush, reply⟩)
  moves : ∀ position reply, allowed (.answered ⟨.move position, reply⟩)
  writes : ∀ editor padding reply, kept editor →
    allowed (.answered ⟨.write (paintedText editor.line padding), reply⟩)
  repaints : ∀ before after : Editor, before.Repaints after → kept before → kept after

/-- **A rule that painting and keys do not break.** -/
structure Permits (kept : Editor → Prop) (allowed : Moment → Prop) : Prop
    extends AllowsPaint kept allowed where
  notes : ∀ event, allowed (.noted event)
  handled : ∀ editor key, kept editor → kept (editor.handled key).1

namespace AllowsPaint
variable {kept : Editor → Prop} {allowed : Moment → Prop} {editor : Editor}
  (allows : AllowsPaint kept allowed) (keeps : kept editor)
include allows keeps

/-- Placing the cursor keeps to a rule that allows painting. -/
theorem placeCursor : KeepsTo kept allowed placeCursor editor := by
  unfold Editing.placeCursor
  refine .get_bind ?_
  cases editor.geometry with
  | none => exact .pure _ keeps
  | some geometry => exact .call (allows.moves _) keeps

/-- Painting the line keeps to a rule that allows painting. -/
theorem repaint : KeepsTo kept allowed repaint editor := by
  unfold Editing.repaint
  refine .get_bind ?_
  cases editor.geometry with
  | none => exact .pure _ keeps
  | some geometry =>
    have painted : kept { editor with
        geometry := some (geometry.recordPaint editor.line.printedLength).2 } :=
      allows.repaints editor _ (editor.repaints_geometry _) keeps
    refine .bind (.call (allows.moves _) keeps) fun _ _ _ => ?_
    refine .bind (.set painted) fun _ _ painted => ?_
    refine .bind (.call (fun reply => allows.writes editor _ reply keeps) painted)
      fun _ _ written => ?_
    exact allows.placeCursor written

/-- Whatever has to be painted keeps to a rule that allows painting. -/
theorem paint (changed : Paint) : KeepsTo kept allowed (paint changed) editor := by
  cases changed with
  | nothing => exact .pure () keeps
  | cursor => exact allows.placeCursor keeps
  | line => exact allows.repaint keeps

/-- Finding out where the line stands keeps to the rule. -/
theorem captureGeometry : KeepsTo kept allowed captureGeometry editor := by
  have asked : KeepsTo kept allowed (talk Geometry.capture) editor := by
    unfold Geometry.capture
    rw [talk_bind]
    refine .bind (.call allows.width keeps) fun width _ keeps => ?_
    rw [talk_bind]
    exact .bind (.call allows.cursorRow keeps) fun firstRow _ keeps =>
      ⟨keeps, List.forall_mem_nil _⟩
  exact .bind asked fun geometry after keeps =>
    .modify (allows.repaints after _ (after.repaints_geometry _) keeps)

omit keeps in
/-- **The beginning of a session** keeps to the rule, once the line is empty. -/
theorem begin {prompt : String}
    (keeps : kept { editor with line := Line.start prompt }) :
    KeepsTo kept allowed (begin prompt) editor :=
  .bind (.modify keeps) fun _ _ keeps =>
    .bind (allows.captureGeometry keeps) fun _ _ keeps =>
      .bind (allows.repaint keeps) fun _ _ keeps => .call allows.flush keeps

end AllowsPaint

/-- Painting notes nothing, and changes nothing but the place on the screen. -/
theorem allowsPaint_silent (before : Editor) :
    AllowsPaint before.Repaints Moment.IsAnswered where
  width _ := trivial
  cursorRow _ := trivial
  flush _ := trivial
  moves _ _ := trivial
  writes _ _ _ _ := trivial
  repaints _ _ further repaints := trans_of Editor.Repaints repaints further

namespace Permits
variable {kept : Editor → Prop} {allowed : Moment → Prop} {editor : Editor}
  (permits : Permits kept allowed) (keeps : kept editor)
include permits keeps

/-- Handling a key keeps to the rule. -/
theorem handle (key : Key) : KeepsTo kept allowed (handle key) editor := by
  unfold KeepsTo
  rw [ensures_handle]
  refine (permits.paint (permits.handled editor key keeps) _).mono ?_
  rintro course result after ⟨keeps, within⟩
  exact ⟨keeps, List.forall_mem_cons.mpr ⟨permits.notes _, within⟩⟩

/-- Fitting the line to a new width keeps to the rule. -/
theorem refreshGeometry : KeepsTo kept allowed refreshGeometry editor := by
  unfold Editing.refreshGeometry
  refine .get_bind ?_
  cases editor.geometry with
  | none => exact .pure _ keeps
  | some geometry =>
    have looked : KeepsTo kept allowed (talk (geometry.refreshed editor.line.cursorOffset))
        editor := by
      unfold Geometry.refreshed
      rw [talk_bind]
      refine .bind (.call permits.width keeps) fun width _ keeps => ?_
      split
      · exact .pure _ keeps
      split
      · exact ⟨keeps, List.forall_mem_nil _⟩
      rw [talk_bind]
      refine .bind (.call permits.cursorRow keeps) fun cursorRow _ keeps => ?_
      rw [talk_bind]
      exact .note_bind (permits.notes _) (.pure _ keeps)
    refine .bind looked fun resized? _ same => ?_
    cases resized? with
    | none => exact .pure _ same
    | some resized =>
      have fitted : kept { editor with geometry := some resized } :=
        permits.repaints editor _ (editor.repaints_geometry _) keeps
      exact .bind (.set fitted) fun _ _ fitted => permits.placeCursor fitted

/-- **A response to a key** keeps to the rule. -/
theorem respond (key : Key) : KeepsTo kept allowed (respond key) editor :=
  .bind (permits.refreshGeometry keeps) fun _ _ keeps =>
    .bind (permits.handle keeps key) fun _ _ keeps => .call permits.flush keeps

end Permits

/-- **A rule that sessions do not break.** -/
structure Upholds (kept : Editor → Prop) (allowed : Moment → Prop) : Prop
    extends Permits kept allowed where
  reads : ∀ reply, allowed (.answered ⟨.readKey true, reply⟩)
  breaks : ∀ reply, allowed (.answered ⟨.writeLine "", reply⟩)
  toEnd : ∀ editor, kept editor → kept { editor with line := editor.line.toEnd }
  clears : ∀ editor, kept editor → kept { editor with line := editor.line.clear }
  enters : ∀ editor, kept editor →
    kept { editor with history := editor.history.add editor.line.content }

namespace Upholds
variable {kept : Editor → Prop} {allowed : Moment → Prop} {editor : Editor}
  (upholds : Upholds kept allowed) (keeps : kept editor)
include upholds keeps

/-- Entering a text into the history keeps to the rule. -/
theorem remember : KeepsTo kept allowed (remember editor.line.content) editor := by
  unfold Editing.remember
  refine .get_bind ?_
  dsimp only
  cases editor.history.evictedBy? editor.line.content with
  | none => exact .modify (upholds.enters editor keeps)
  | some entry => exact .note_bind (upholds.notes _) (.modify (upholds.enters editor keeps))

/-- Ending with the line entered keeps to the rule. -/
theorem commit : KeepsTo kept allowed commit editor := by
  unfold Editing.commit
  refine .bind (.modify (upholds.toEnd editor keeps)) fun _ _ keeps => ?_
  refine .bind (upholds.placeCursor keeps) fun _ _ keeps => ?_
  refine .bind (.call upholds.breaks keeps) fun _ _ keeps => ?_
  refine .bind (.call upholds.flush keeps) fun _ editor keeps => ?_
  refine .get_bind ?_
  dsimp only
  split
  · exact .bind (upholds.remember keeps) fun _ _ keeps =>
      .get_bind (.note_bind (upholds.notes _) (.pure _ keeps))
  · exact .get_bind (.note_bind (upholds.notes _) (.pure _ keeps))

/-- Ending with the input keeps to the rule. -/
theorem abandon : KeepsTo kept allowed abandon editor :=
  .get_bind <| .note_bind (upholds.notes _) <|
    .bind (.modify (upholds.clears editor keeps)) fun _ _ keeps =>
      .bind (.call upholds.breaks keeps) fun _ _ keeps =>
        .bind (.call upholds.flush keeps) fun _ _ keeps => .pure _ keeps

/-- Handling the keys of a session keeps to the rule. -/
theorem handleKeys (keys : Nat) : KeepsTo kept allowed (handleKeys keys) editor := by
  induction keys generalizing editor with
  | zero =>
    unfold Editing.handleKeys
    refine .get_bind ?_
    split
    · exact (upholds.commit keeps).map
    · exact .pure _ keeps
  | succ keys ih =>
    unfold Editing.handleKeys
    refine .get_bind ?_
    split
    · exact (upholds.commit keeps).map
    refine .bind (.call upholds.reads keeps) fun key? _ keeps => ?_
    cases key? with
    | none => exact (upholds.abandon keeps).map
    | some key => exact .bind (upholds.respond keeps key) fun _ _ keeps => ih keeps

omit keeps in
/-- **A session** keeps to the rule. -/
theorem readLine {prompt : String} (keeps : kept { editor with line := Line.start prompt })
    (keys : Nat) : KeepsTo kept allowed (readLine keys prompt) editor :=
  .tryCatch (.bind (upholds.begin keeps) fun _ _ keeps => upholds.handleKeys keeps keys)
    fun _ _ keeps => .note_bind (upholds.notes _) ⟨keeps, List.forall_mem_nil _⟩

end Upholds

end Editing

end PromptLine
