import PromptLine.Proofs.Editor.Handling
import PromptLine.Terminal.Scripted

/-!
# What painting leaves in an editor

A key changes the editor before anything is painted, so whatever a terminal makes of the painting
shows in one number: the length of the longest paint (`PromptLine.Console.handle_recounts`).

That number counts a paint before it is written, so that it may be too large after a failure and is
never too small: it is at least the length of every text that was written since the line was found
where it stands, on terminals that may differ from one operation to the next and may fail in any of
them (`PromptLine.Editor.Painted.covered`).
-/

namespace PromptLine

namespace Editing

/-- What is painted is the prompt, then the text, then the padding. -/
theorem toList_paintedText (line : Line) (padding : Nat) :
    (paintedText line padding).toList =
      line.prompt.toList ++ line.text ++ List.replicate padding ' ' := by
  rw [paintedText, String.toList_append, String.toList_ofList, List.append_assoc]

/-- The prompt and the text are as long as what is printed of a line. -/
theorem length_prompt_append_text (line : Line) :
    (line.prompt.toList ++ line.text).length = line.printedLength := by
  rw [List.length_append, String.length_toList]
  rfl

/-- A paint is as long as the line and its padding. -/
theorem length_paintedText (line : Line) (padding : Nat) :
    (paintedText line padding).toList.length = line.printedLength + padding := by
  rw [toList_paintedText, List.length_append, length_prompt_append_text, List.length_replicate]

end Editing

namespace Moment

/-- The text that was written, if one was. -/
def written? : Moment → Option String
  | .answered ⟨.write text, .ok _⟩ => some text
  | _ => none

/-- The texts that were written among the things that happen. -/
def written (course : List Moment) : List String := course.filterMap written?

@[simp] theorem written_append (first second : List Moment) :
    written (first ++ second) = written first ++ written second :=
  List.filterMap_append

end Moment

namespace Editor

/-- The editor with another length of the longest paint. -/
def withMaxPrinted (longest : Nat) (editor : Editor) : Editor :=
  { editor with
    geometry := editor.geometry.map fun geometry => { geometry with maxPrinted := longest } }

/-- A line on the screen gets another longest paint. -/
theorem withMaxPrinted_of_some {editor : Editor} {geometry : Geometry} (longest : Nat)
    (located : editor.geometry = some geometry) : editor.withMaxPrinted longest =
      { editor with geometry := some { geometry with maxPrinted := longest } } := by
  unfold withMaxPrinted
  rw [located]
  rfl

/-- Setting the longest paint that there is changes nothing. -/
theorem withMaxPrinted_self {editor : Editor} {geometry : Geometry}
    (located : editor.geometry = some geometry) :
    editor.withMaxPrinted geometry.maxPrinted = editor := by
  rw [withMaxPrinted_of_some _ located, ← located]

/-- A line that is not on the screen has no longest paint to set. -/
theorem withMaxPrinted_of_none {editor : Editor} (longest : Nat)
    (unknown : editor.geometry = none) : editor.withMaxPrinted longest = editor := by
  unfold withMaxPrinted
  rw [unknown, Option.map_none, ← unknown]

/-- Of two longest paints the last one counts. -/
theorem withMaxPrinted_withMaxPrinted (first second : Nat) (editor : Editor) :
    (editor.withMaxPrinted first).withMaxPrinted second = editor.withMaxPrinted second := by
  unfold withMaxPrinted
  rw [Option.map_map]
  rfl

/-- **The second editor outgrows the first one**, and texts: its line stands on the screen if that
of the first one does, and its longest paint is at least as long as that one's and as each text. -/
def Outgrows (texts : List String) (before after : Editor) : Prop :=
  ∀ geometry, before.geometry = some geometry → ∃ next, after.geometry = some next ∧
    geometry.maxPrinted ≤ next.maxPrinted ∧ ∀ text ∈ texts, text.length ≤ next.maxPrinted

theorem Outgrows.refl (editor : Editor) : editor.Outgrows [] editor :=
  fun geometry located => ⟨geometry, located, Nat.le_refl _, List.forall_mem_nil _⟩

/-- **Only the longest paint changes**, and it grows: the second editor is the first one with a
longest paint that is at least as long as that one's and as each of the texts. -/
def Recounts (texts : List String) (before after : Editor) : Prop :=
  (∃ longest, after = before.withMaxPrinted longest) ∧ before.Outgrows texts after

theorem Recounts.refl (editor : Editor) : editor.Recounts [] editor := by
  refine ⟨?_, .refl editor⟩
  cases located : editor.geometry with
  | none => exact ⟨0, (withMaxPrinted_of_none 0 located).symm⟩
  | some geometry => exact ⟨geometry.maxPrinted, (withMaxPrinted_self located).symm⟩

end Editor

namespace Editing
open Moment

/-- Putting the cursor in its place writes nothing. -/
theorem ensures_placeCursor_written (editor : Editor) :
    placeCursor.Ensures editor fun course _ after => after = editor ∧ written course = [] := by
  unfold placeCursor
  rw [ensures_get_bind]
  cases editor.geometry with
  | none => exact ⟨rfl, rfl⟩
  | some geometry => exact fun reply => ⟨rfl, rfl⟩

/-- **A paint** is counted before it is written. -/
theorem ensures_repaint_recounts (editor : Editor) :
    repaint.Ensures editor fun course _ after => editor.Recounts (written course) after := by
  unfold repaint
  rw [ensures_get_bind]
  cases located : editor.geometry with
  | none => exact .refl editor
  | some geometry =>
    let printed := editor.line.printedLength
    let longest := max geometry.maxPrinted printed
    have counted : editor.withMaxPrinted longest =
        { editor with geometry := some (geometry.recordPaint printed).2 } :=
      Editor.withMaxPrinted_of_some longest located
    have grows {texts : List String} (covers : ∀ text ∈ texts, text.length ≤ longest) :
        editor.Recounts texts (editor.withMaxPrinted longest) := by
      refine ⟨⟨longest, rfl⟩, ?_⟩
      intro before same
      obtain rfl : geometry = before := Option.some_inj.mp (located.symm.trans same)
      exact ⟨_, congrArg Editor.geometry counted, Nat.le_max_left _ _, covers⟩
    dsimp only
    rw [ensures_bind, ensures_call]
    rintro (failure | _)
    · exact .refl editor
    dsimp only
    rw [ensures_bind, ensures_set]
    dsimp only
    rw [ensures_bind, ensures_call, ← counted]
    rintro (failure | _)
    · exact grows (List.forall_mem_nil _)
    refine (ensures_placeCursor_written _).mono ?_
    rintro course result after ⟨rfl, nothing⟩
    refine grows ?_
    simp only [written_append, nothing]
    refine List.forall_mem_singleton.mpr ?_
    rw [← String.length_toList, length_paintedText]
    change printed + (geometry.maxPrinted - printed) ≤ max geometry.maxPrinted printed
    omega

/-- Painting what has to be painted is counted too. -/
theorem ensures_paint_recounts (changed : Paint) (editor : Editor) :
    (paint changed).Ensures editor fun course _ after => editor.Recounts (written course) after := by
  cases changed with
  | nothing => exact .refl editor
  | cursor =>
    refine (ensures_placeCursor_written editor).mono ?_
    rintro course result after ⟨rfl, nothing⟩
    rw [nothing]
    exact .refl after
  | line => exact ensures_repaint_recounts editor

/-- **Handling a key** is what it would be without a terminal, but for the longest paint. -/
theorem ensures_handle_recounts (key : Key) (editor : Editor) :
    (handle key).Ensures editor fun course _ after =>
      (editor.handled key).1.Recounts (written course) after :=
  (ensures_handle key editor).mpr (ensures_paint_recounts _ _)

/-- Another width does not change the longest paint, and nothing is written for it. -/
theorem ensures_refreshGeometry_outgrows (editor : Editor) :
    refreshGeometry.Ensures editor fun course _ after =>
      editor.Outgrows (written course) after := by
  unfold refreshGeometry
  rw [ensures_get_bind]
  cases located : editor.geometry with
  | none => exact .refl editor
  | some geometry =>
    dsimp only
    rw [ensures_bind, ensures_refreshed]
    rintro (failure | width)
    · exact .refl editor
    dsimp only
    split
    · exact .refl editor
    split
    · exact .refl editor
    rintro (failure | row)
    · exact .refl editor
    dsimp only
    rw [ensures_bind, ensures_set]
    refine (ensures_placeCursor_written _).mono ?_
    rintro course result after ⟨rfl, nothing⟩
    simp only [written_append, nothing]
    intro before same
    obtain rfl : geometry = before := Option.some_inj.mp (located.symm.trans same)
    exact ⟨_, rfl, Nat.le_refl _, List.forall_mem_nil _⟩

/-- What is done with a line that stands on the screen, until it is found anew where it stands. -/
inductive Stroke where
  | repaint
  | refresh
  | handle (key : Key)

/-- What the editor does in a stroke. -/
def Stroke.operation : Stroke → Editing Unit
  | .repaint => Editing.repaint
  | .refresh => refreshGeometry
  | .handle key => Editing.handle key

/-- **Each of these** counts what it writes. -/
theorem Stroke.ensures_outgrows (stroke : Stroke) (editor : Editor) :
    stroke.operation.Ensures editor fun course _ after =>
      editor.Outgrows (written course) after := by
  cases stroke with
  | repaint => exact (ensures_repaint_recounts editor).mono fun _ _ _ => And.right
  | refresh => exact ensures_refreshGeometry_outgrows editor
  | handle key =>
    refine (ensures_handle_recounts key editor).mono ?_
    rintro course result after ⟨-, grows⟩ geometry located
    exact grows geometry ((editor.geometry_handled key).trans located)

/-- Where the line was found, it stands. -/
theorem ensures_captureGeometry_located (editor : Editor) :
    captureGeometry.Ensures editor fun _ result after =>
      result = .ok () → ∃ geometry, after.geometry = some geometry := by
  unfold captureGeometry
  rw [ensures_bind]
  refine (ensures_talk _ editor).mono ?_
  rintro course (failure | geometry) after -
  · exact nofun
  · exact fun _ => ⟨geometry, rfl⟩

end Editing

namespace Editor
open Moment

/-- **What was written in the place of a line** since it was found there, up to now. Every operation
may be on another terminal, and calls may fail in each of them; in between, everything but the place
of the line may be changed. -/
inductive Painted : List String → Editor → Prop where
  | captured {σ : Type} {device : Terminal σ} {before after : Console σ}
      (captured : before.perform device Editing.captureGeometry = (.ok (), after)) :
      Painted [] after.editor
  | changed {texts : List String} {before after : Editor} (earlier : Painted texts before)
      (same : after.geometry = before.geometry) : Painted texts after
  | stroked {σ : Type} (device : Terminal σ) {console : Console σ} {texts : List String}
      (earlier : Painted texts console.editor) (stroke : Editing.Stroke) :
      Painted (texts ++ written (console.course device stroke.operation))
        (console.perform device stroke.operation).2.editor

/-- **The longest paint is long enough** for everything that was written in the place of the line.
-/
theorem Painted.covered {texts : List String} {editor : Editor} (painted : editor.Painted texts) :
    ∃ geometry, editor.geometry = some geometry ∧
      ∀ text ∈ texts, text.length ≤ geometry.maxPrinted := by
  induction painted with
  | @captured σ device before after captured =>
    have located := before.perform_of_ensures device
      (Editing.ensures_captureGeometry_located before.editor)
    rw [captured] at located
    obtain ⟨geometry, located⟩ := located rfl
    exact ⟨geometry, located, List.forall_mem_nil _⟩
  | changed earlier same ih =>
    obtain ⟨geometry, located, covers⟩ := ih
    exact ⟨geometry, same.trans located, covers⟩
  | @stroked σ device console texts earlier stroke ih =>
    obtain ⟨geometry, located, covers⟩ := ih
    have grows := console.perform_of_ensures device (stroke.ensures_outgrows console.editor)
    obtain ⟨next, reached, longer, coversMore⟩ := grows geometry located
    refine ⟨next, reached, List.forall_mem_append.mpr ⟨?_, coversMore⟩⟩
    exact fun text member => Nat.le_trans (covers text member) longer

end Editor

/-- **Editing does not depend on the painting.** On any two terminals, each call of which may
succeed or fail, a key leaves the same editor but for the length of the longest paint. That length
is never less than before the key, and never less than the length of a text that was written in the
place of the line since it was found there, by this key or earlier. -/
theorem Console.handle_recounts {σ τ : Type} (device : Terminal σ) (other : Terminal τ)
    (one : Console σ) (two : Console τ) (same : one.editor = two.editor) (key : Key) :
    let first := (one.perform device (Editing.handle key)).2.editor
    let second := (two.perform other (Editing.handle key)).2.editor
    (∃ longest, second = first.withMaxPrinted longest) ∧
      (∀ geometry, one.editor.geometry = some geometry →
        ∃ next, first.geometry = some next ∧ geometry.maxPrinted ≤ next.maxPrinted) ∧
      ∀ texts, one.editor.Painted texts → ∃ next, first.geometry = some next ∧
        ∀ text ∈ texts ++ Moment.written (one.course device (Editing.handle key)),
          text.length ≤ next.maxPrinted := by
  intro first second
  refine ⟨?same, ?longer, ?covered⟩
  case same =>
    obtain ⟨⟨m, left⟩, -⟩ := one.perform_of_ensures device
      (Editing.ensures_handle_recounts key one.editor)
    obtain ⟨⟨n, right⟩, -⟩ := two.perform_of_ensures other
      (Editing.ensures_handle_recounts key two.editor)
    refine ⟨n, ?_⟩
    calc second
      _ = (two.editor.handled key).1.withMaxPrinted n := right
      _ = ((one.editor.handled key).1.withMaxPrinted m).withMaxPrinted n := by
          rw [Editor.withMaxPrinted_withMaxPrinted, same]
      _ = first.withMaxPrinted n := congrArg _ left.symm
  case longer =>
    intro geometry located
    obtain ⟨next, reached, longer, -⟩ := one.perform_of_ensures device
      ((Editing.Stroke.handle key).ensures_outgrows one.editor) geometry located
    exact ⟨next, reached, longer⟩
  case covered =>
    intro texts painted
    exact (Editor.Painted.stroked device painted (.handle key)).covered

/-- The same key on a terminal that works and on one whose writes fail, after both found the line in
the same place. The first one writes the line, and the second one nothing. -/
theorem Console.handle_recounts_unwritten :
    let working : Script := { inputs := [], width := 10 }
    let broken : Script := { working with writeFailure? := some .brokenPipe }
    let empty : Console Script := { editor := .standard, stage := { terminal := working } }
    let one := (empty.perform Script.terminal Editing.captureGeometry).2
    let two : Console Script := { editor := one.editor, stage := { terminal := broken } }
    let key := Key.ofChar 'x'
    let first := one.perform Script.terminal (Editing.handle key)
    let second := two.perform Script.terminal (Editing.handle key)
    one.editor = two.editor ∧ one.editor.Painted [] ∧
      first.1 = .ok () ∧ second.1 = .error (.io .brokenPipe) ∧
      (∃ longest, second.2.editor = first.2.editor.withMaxPrinted longest) ∧
      Moment.written (one.course Script.terminal (Editing.handle key)) = ["x"] ∧
      ∃ next, first.2.editor.geometry = some next ∧ "x".length ≤ next.maxPrinted := by
  intro working broken empty one two key first second
  have captured : empty.perform Script.terminal Editing.captureGeometry = (.ok (), one) := rfl
  have painted : one.editor.Painted [] := .captured captured
  have wrote : Moment.written (one.course Script.terminal (Editing.handle key)) = ["x"] := by
    decide +kernel
  obtain ⟨same, -, covered⟩ :=
    handle_recounts Script.terminal Script.terminal one two rfl key
  obtain ⟨next, reached, covers⟩ := covered [] painted
  rw [wrote] at covers
  refine ⟨rfl, painted, rfl, rfl, same, wrote, next, reached, ?_⟩
  exact covers "x" (List.mem_singleton_self _)

end PromptLine
