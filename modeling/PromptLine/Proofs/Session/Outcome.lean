import Mathlib.Data.List.Basic
import PromptLine.Proofs.Editor.Keeping
import PromptLine.Proofs.History.Steps
import PromptLine.Terminal.Scripted

/-!
# What a session leaves behind

A session touches the entries of the history only when a line was entered, and then after the last
call that can fail. So a session that fails, or that ends with the input, leaves the entries as they
were: browsing may have moved, and nothing else (`PromptLine.Editing.readLine_settles`).

What the two ends of a session do and note is told once, in `PromptLine.Editing.ensures_commit` and
`PromptLine.Editing.ensures_abandon`.
-/

namespace PromptLine

namespace Editor

/-- The history of the second editor has the entries and the capacity of the first one's, and the
settings are the same. -/
structure KeepsHistory (before after : Editor) : Prop where
  history : before.history.Agrees after.history
  settings : after.settings = before.settings

instance : IsPreorder Editor KeepsHistory where
  refl _ := ⟨.refl _, rfl⟩
  trans _ _ _ kept further :=
    ⟨kept.history.trans further.history, further.settings.trans kept.settings⟩

/-- Painting keeps the entries. -/
theorem Repaints.keepsHistory {before after : Editor} (repaints : before.Repaints after) :
    before.KeepsHistory after :=
  ⟨repaints.history_eq ▸ .refl _, repaints.settings_eq⟩

/-- No action changes the entries. -/
theorem keepsHistory_edited (editor : Editor) (action : Action) :
    editor.KeepsHistory (Editing.edited editor action).1 := by
  have browsed (moved : Option String × History) (agrees : editor.history.Agrees moved.2) :
      editor.KeepsHistory (Editing.withEntry editor moved).1 := by
    unfold Editing.withEntry Editing.withLine?
    cases moved.1 <;> exact ⟨agrees, rfl⟩
  have replaced (paint : Editing.Paint) (line? : Option Line) :
      editor.KeepsHistory (Editing.withLine? editor paint line?).1 := by
    unfold Editing.withLine?
    cases line? <;> exact ⟨.refl _, rfl⟩
  cases action with
  | escape | home | toEnd | enter | tab => exact ⟨.refl _, rfl⟩
  | moveLeft | moveRight | backspace | delete => exact replaced _ _
  | historyPrevious => exact browsed _ (History.agrees_previous _)
  | historyNext => exact browsed _ (History.agrees_next _)

/-- No key changes the entries. -/
theorem keepsHistory_handled (editor : Editor) (key : Key) :
    editor.KeepsHistory (editor.handled key).1 := by
  unfold handled
  cases editor.bindings.find? key with
  | some action => exact keepsHistory_edited editor action
  | none =>
    dsimp only
    split <;> exact ⟨.refl _, rfl⟩

/-- **What a session leaves behind.** A line that was entered is the text of the line, with the
cursor at its end, and the history is the one before after the line was entered into it, unless
the line is empty and empty lines are not kept. At the end of the input the line is dropped. In
every other case than that of an entered line, the entries are those before. -/
def Settles (before : Editor) : Except TerminalError (Option Reading) → Editor → Prop
  | .ok (some (.line text)), after =>
    after.line.content = text ∧ after.line.cursor = after.line.length ∧
      (if text ≠ "" ∨ before.settings.keepsEmptyLines then before.history.add text
        else before.history).Agrees after.history
  | .ok (some .endOfInput), after => before.history.Agrees after.history ∧ after.line.text = []
  | .ok none, after | .error _, after => before.history.Agrees after.history

/-- The history after a text was entered. An empty text is not always kept. -/
def historyWith (text : String) (editor : Editor) : History :=
  if text ≠ "" ∨ editor.settings.keepsEmptyLines then editor.history.add text else editor.history

/-- What is noted when a text is entered: the entry that has to go, if there is one. -/
def evictions (text : String) (editor : Editor) : List Event :=
  if text ≠ "" ∨ editor.settings.keepsEmptyLines then
    (editor.history.evictedBy? text).toList.map (.evicted · editor.history.capacity)
  else []

/-- The entries with a text as the newest, before one of them has to go. An empty text is not always
kept. -/
def entriesWith (text : String) (editor : Editor) : List String :=
  if text ≠ "" ∨ editor.settings.keepsEmptyLines then editor.history.entriesWith text
  else editor.history.entries

/-- The oldest entry goes, or none does, and that is noted. -/
theorem exists_evicted (editor : Editor) (text : String) : ∃ evicted : Option String,
    editor.entriesWith text = evicted.toList ++ (editor.historyWith text).entries ∧
      editor.evictions text = evicted.toList.map (.evicted · editor.history.capacity) := by
  unfold entriesWith historyWith evictions
  split
  · exact ⟨editor.history.evictedBy? text, editor.history.entriesWith_eq text, rfl⟩
  · exact ⟨none, rfl, rfl⟩

/-- A text is entered after the same entries, wherever the history is browsed. -/
theorem KeepsHistory.entriesWith_eq {before after : Editor} (kept : before.KeepsHistory after)
    (text : String) : before.entriesWith text = after.entriesWith text := by
  unfold entriesWith History.entriesWith
  rw [kept.settings, kept.history.entries]

/-- What happens to the history before a session settles does not show in what it leaves. -/
theorem KeepsHistory.settles {first second last : Editor}
    {result : Except TerminalError (Option Reading)} (kept : first.KeepsHistory second)
    (settles : second.Settles result last) : first.Settles result last := by
  match result, settles with
  | .ok (some (.line text)), ⟨content, cursor, history⟩ =>
    refine ⟨content, cursor, ?_⟩
    rw [kept.settings] at history
    split at history <;> rename_i kept?
    · rw [if_pos kept?]
      exact (kept.history.add text).trans history
    · rw [if_neg kept?]
      exact kept.history.trans history
  | .ok (some .endOfInput), ⟨history, empty⟩ => exact ⟨kept.history.trans history, empty⟩
  | .ok none, history => exact kept.history.trans history
  | .error _, history => exact kept.history.trans history

end Editor

namespace Editing

/-- Entering a text into the history cannot fail. What is noted is the entry that has to go. -/
theorem ensures_remember (text : String) (editor : Editor) :
    (remember text).Ensures editor fun course result after =>
      result = .ok () ∧ after = { editor with history := editor.history.add text } ∧
        Moment.events course =
          (editor.history.evictedBy? text).toList.map (.evicted · editor.history.capacity) := by
  unfold remember
  rw [ensures_get_bind]
  dsimp only
  cases editor.history.evictedBy? text with
  | none => exact ⟨rfl, rfl, rfl⟩
  | some entry => exact ⟨rfl, rfl, rfl⟩

/-- The calls at the end of a session: the line is left for the next row. -/
def leaveLine : Editing Unit := do
  modifyLine Line.toEnd
  placeCursor
  call (.writeLine "")
  call .flush

/-- What follows the last call when a line was entered. -/
def enterLine : Editing Reading := do
  let editor ← get
  let text := editor.line.content
  if !text.isEmpty || editor.settings.keepsEmptyLines then
    remember text
  note (.committed text.length (← get).history.length)
  pure (.line text)

/-- A commit leaves the line and then enters it. -/
theorem commit_eq : commit = (do leaveLine; enterLine) := by
  simp only [commit, leaveLine, enterLine, bind_assoc]

/-- Leaving the line takes the cursor to its end and notes nothing. -/
theorem keepsTo_leaveLine (editor : Editor) :
    KeepsTo (Editor.Repaints { editor with line := editor.line.toEnd }) Moment.IsAnswered
      leaveLine editor :=
  .bind (.modify rfl) fun _ _ repaints =>
    .bind ((allowsPaint_silent _).placeCursor repaints) fun _ _ repaints =>
      .bind (.call (fun _ => trivial) repaints) fun _ _ repaints =>
        .call (fun _ => trivial) repaints

/-- **Entering the line** cannot fail any more. It is noted with its length and with the number of
entries that there are then. -/
theorem ensures_enterLine (editor : Editor) :
    enterLine.Ensures editor fun course result after =>
      result = .ok (.line editor.line.content) ∧
        after = { editor with history := editor.historyWith editor.line.content } ∧
        Moment.events course = editor.evictions editor.line.content ++
          [.committed editor.line.content.length after.history.length] := by
  unfold enterLine
  rw [ensures_get_bind]
  dsimp only
  split <;> rename_i kept
  · have enters : editor.line.content ≠ "" ∨ editor.settings.keepsEmptyLines := by
      simpa [Line.content, String.isEmpty_iff] using kept
    rw [ensures_bind]
    refine (ensures_remember _ _).mono ?_
    rintro more result after ⟨rfl, rfl, noted⟩
    rw [Editor.historyWith, Editor.evictions, if_pos enters, if_pos enters]
    refine ⟨rfl, rfl, ?_⟩
    rw [Moment.events_append, noted]
    rfl
  · have drops : ¬ (editor.line.content ≠ "" ∨ editor.settings.keepsEmptyLines) := by
      simpa [Line.content, String.isEmpty_iff] using kept
    rw [Editor.historyWith, Editor.evictions, if_neg drops, if_neg drops]
    exact ⟨rfl, rfl, rfl⟩

/-- **A commit** fails before anything is entered or noted, or it enters the line. -/
theorem ensures_commit (editor : Editor) :
    commit.Ensures editor fun course result after =>
      match result with
      | .ok reading =>
        reading = .line editor.line.content ∧
          Editor.Repaints { editor with
            line := editor.line.toEnd
            history := editor.historyWith editor.line.content } after ∧
          Moment.events course = editor.evictions editor.line.content ++
            [.committed editor.line.content.length after.history.length]
      | .error _ =>
        Editor.Repaints { editor with line := editor.line.toEnd } after ∧
          Moment.events course = [] := by
  rw [commit_eq, ensures_bind]
  refine (keepsTo_leaveLine editor).mono ?_
  rintro course (failure | _) left ⟨repaints, silent⟩
  · exact ⟨repaints, Moment.events_eq_nil silent⟩
  refine (ensures_enterLine left).mono ?_
  rintro more result after ⟨rfl, rfl, noted⟩
  rw [Moment.events_append, Moment.events_eq_nil silent, List.nil_append]
  rw [repaints] at noted ⊢
  exact ⟨rfl, rfl, noted⟩

/-- A commit that fails leaves the history as it is, and one that does not enters the line. -/
theorem settles_commit (editor : Editor) :
    commit.Ensures editor fun _ result after => editor.Settles (some <$> result) after := by
  refine (ensures_commit editor).mono ?_
  rintro course (failure | reading) after spec
  · exact spec.1.keepsHistory.history
  · obtain ⟨rfl, repaints, -⟩ := spec
    rw [repaints]
    exact ⟨rfl, rfl, .refl _⟩

/-- At the end of the input the history stays as it is. It is noted how much is dropped. -/
theorem ensures_abandon (editor : Editor) :
    abandon.Ensures editor fun course result after =>
      editor.Settles (some <$> result) after ∧
        (∀ reading, result = .ok reading → reading = .endOfInput) ∧
        Moment.events course = [.endOfInput editor.line.length] := by
  unfold abandon modifyLine
  rw [ensures_get_bind, ensures_bind, ensures_note]
  dsimp only
  rw [ensures_bind, ensures_modify]
  dsimp only
  rw [ensures_bind, ensures_call]
  rintro (failure | _)
  · exact ⟨.refl _, nofun, rfl⟩
  dsimp only
  rw [ensures_bind, ensures_call]
  rintro (failure | _)
  · exact ⟨.refl _, nofun, rfl⟩
  · exact ⟨⟨.refl _, rfl⟩, fun _ same => (Except.ok.inj same).symm, rfl⟩

/-- No response to a key changes the entries, whether or not the terminal fails. -/
theorem ensures_respond_keepsHistory (key : Key) (editor : Editor) :
    (respond key).Ensures editor fun _ _ after => editor.KeepsHistory after := by
  have handled {after : Editor} (repaints : (editor.handled key).1.Repaints after) :
      editor.KeepsHistory after :=
    trans_of Editor.KeepsHistory (editor.keepsHistory_handled key) repaints.keepsHistory
  refine (ensures_respond key editor).mono ?_
  rintro course (failure | _) after responded
  · exact responded.elim Editor.Repaints.keepsHistory handled
  · exact handled responded

/-- The keys of a session settle what the session leaves behind. -/
theorem ensures_handleKeys (keys : Nat) (editor : Editor) :
    (handleKeys keys).Ensures editor fun _ result after => editor.Settles result after := by
  induction keys generalizing editor with
  | zero =>
    unfold handleKeys
    rw [ensures_get_bind]
    split
    · exact (ensures_map _).mpr (settles_commit editor)
    · exact .refl _
  | succ keys ih =>
    unfold handleKeys
    rw [ensures_get_bind]
    split
    · exact (ensures_map _).mpr (settles_commit editor)
    rw [ensures_bind, ensures_call]
    rintro (failure | (_ | key))
    · exact .refl _
    · exact (ensures_map _).mpr ((ensures_abandon editor).mono fun _ _ _ => And.left)
    dsimp only
    rw [ensures_bind]
    refine (ensures_respond_keepsHistory key editor).mono ?_
    rintro course (failure | _) after kept
    · exact kept.history
    · exact (ih after).mono fun _ _ _ settles => kept.settles settles

/-- A session settles what it leaves behind. -/
theorem settles_readLine (keys : Nat) (prompt : String) (editor : Editor) :
    (readLine keys prompt).Ensures editor fun _ result after => editor.Settles result after := by
  unfold readLine
  rw [ensures_tryCatch, ensures_bind]
  refine (ensures_begin prompt editor).mono ?_
  intro course result started repaints
  have kept : editor.KeepsHistory started :=
    ⟨repaints.history_eq ▸ .refl _, repaints.settings_eq⟩
  cases result with
  | error failure => exact kept.history
  | ok _ =>
    refine (ensures_handleKeys keys started).mono ?_
    rintro more (failure | reading) after settles
    · exact kept.settles settles
    · exact kept.settles settles

/-- **A session changes the entries only for a line that was entered.** Whatever the terminal
answers, a session that fails or that ends with the input leaves the entries and the capacity of
the history as they were, and a session in which a line was entered enters that line once, unless
it is empty and empty lines are not kept. -/
theorem readLine_settles {σ : Type} (device : Terminal σ) (keys : Nat) (prompt : String)
    (console : Console σ) :
    console.editor.Settles (console.perform device (readLine keys prompt)).1
      (console.perform device (readLine keys prompt)).2.editor :=
  console.perform_of_ensures device (settles_readLine keys prompt console.editor)

/-- A line that is entered into a full history, input that ends while an entry is looked at, and a
read that fails there. -/
theorem readLine_settles_each :
    let editor : Editor := { history := { capacity := 2, entries := ["ls", "pwd"] } }
    let read (inputs : List Input) : Except TerminalError (Option Reading) × Console Script :=
      Console.perform Script.terminal (readLine 9 "> ")
        { editor, stage := { terminal := { inputs, width := 8 } } }
    (∃ last, read (Script.typing "hi" ++ [.key (.ofCode .enter)]) = (.ok (some (.line "hi")), last) ∧
        last.editor.line.content = "hi" ∧ last.editor.line.cursor = last.editor.line.length ∧
        last.editor.history.entries = ["pwd", "hi"]) ∧
      (∃ last, read (.key (.ofCode .up) :: Script.typing "x") = (.ok (some .endOfInput), last) ∧
        last.editor.history.entries = ["ls", "pwd"] ∧ last.editor.line.text = []) ∧
      ∃ last, read [.key (.ofCode .up), .fail .notConnected] =
          (.error (.io .notConnected), last) ∧
        last.editor.history.entries = ["ls", "pwd"] := by
  intro editor read
  -- Only the results are computed. What the last console holds follows from the theorem.
  have settles (inputs : List Input) (result : Except TerminalError (Option Reading))
      (known : (read inputs).1 = result) :
      ∃ last, read inputs = (result, last) ∧ editor.Settles result last.editor := by
    refine ⟨(read inputs).2, Prod.ext known rfl, ?_⟩
    rw [← known]
    exact readLine_settles Script.terminal 9 "> " _
  refine ⟨?line, ?endOfInput, ?failure⟩
  case line =>
    obtain ⟨last, reads, content, cursor, added⟩ :=
      settles (Script.typing "hi" ++ [.key (.ofCode .enter)]) (.ok (some (.line "hi")))
        (by decide +kernel)
    exact ⟨last, reads, content, cursor, added.entries.trans (by decide +kernel)⟩
  case endOfInput =>
    obtain ⟨last, reads, kept, dropped⟩ :=
      settles (.key (.ofCode .up) :: Script.typing "x") (.ok (some .endOfInput)) (by decide +kernel)
    exact ⟨last, reads, kept.entries, dropped⟩
  case failure =>
    obtain ⟨last, reads, kept⟩ :=
      settles [.key (.ofCode .up), .fail .notConnected] (.error (.io .notConnected))
        (by decide +kernel)
    exact ⟨last, reads, kept.entries⟩

end Editing

end PromptLine
