import PromptLine.Proofs.Editor.Handling

/-!
# Operations on a console

What an operation of the editor comes to on a console, by the way the operation is built. Two
operations in a row are carried out one after the other, unless the first one fails.
-/

namespace PromptLine.Console

variable {σ α β : Type} (device : Terminal σ) (console : Console σ)

/-- Performing an operation plays its dialogue and keeps the editor that it ends with. -/
theorem perform_eq (operation : Editing α) :
    console.perform device operation =
      let played := (Editing.dialogue operation console.editor).play device console.stage
      (played.1.1, { editor := played.1.2, stage := played.2 }) := rfl

@[simp] theorem perform_pure (value : α) :
    console.perform device (pure value) = (.ok value, console) := rfl

@[simp] theorem perform_throw (failure : TerminalError) :
    console.perform device (throw failure : Editing α) = (.error failure, console) := rfl

/-- The second of two operations in a row is performed where the first one ends, unless that one
fails. -/
theorem perform_bind (operation : Editing α) (rest : α → Editing β) :
    console.perform device (operation >>= rest) =
      match console.perform device operation with
      | (.ok value, reached) => reached.perform device (rest value)
      | (.error failure, reached) => (.error failure, reached) := by
  rw [perform_eq, perform_eq, Editing.dialogue_bind, Dialogue.play_bind]
  generalize (Editing.dialogue operation console.editor).play device console.stage = played
  obtain ⟨⟨result, editor⟩, stage⟩ := played
  cases result with
  | ok value => rfl
  | error failure => rfl

/-- What asks for the editor goes on with the one that there is. -/
theorem perform_get_bind (rest : Editor → Editing β) :
    console.perform device (get >>= rest) = console.perform device (rest console.editor) := by
  rw [perform_eq, Editing.dialogue_get_bind]
  rfl

@[simp] theorem perform_set (next : Editor) :
    console.perform device (set next) = (.ok (), { console with editor := next }) := rfl

@[simp] theorem perform_modify (change : Editor → Editor) :
    console.perform device (modify change) =
      (.ok (), { console with editor := change console.editor }) := rfl

/-- The console after an event was noted. -/
def notes {σ : Type} (event : Event) (console : Console σ) : Console σ :=
  { console with stage := { console.stage with events := console.stage.events.push event } }

@[simp] theorem perform_note (event : Event) :
    console.perform device (Editing.note event) = (.ok (), console.notes event) := rfl

@[simp] theorem perform_call (c : Call) :
    console.perform device (Editing.call c) =
      let answer := device.answer c console.stage.terminal
      (answer.reply, { console with stage :=
        { terminal := answer.terminal, events := console.stage.events ++ answer.events } }) := rfl

/-- A result that is changed afterwards changes nothing else. -/
theorem perform_map (change : α → β) (operation : Editing α) :
    console.perform device (change <$> operation) =
      (change <$> (console.perform device operation).1,
        (console.perform device operation).2) := by
  rw [map_eq_pure_bind, perform_bind]
  rcases console.perform device operation with ⟨failure | value, reached⟩
  · rfl
  · rfl

/-- A failure is handled where it happened. -/
theorem perform_tryCatch (operation : Editing α) (handler : TerminalError → Editing α) :
    console.perform device (tryCatch operation handler) =
      match console.perform device operation with
      | (.ok value, reached) => (.ok value, reached)
      | (.error failure, reached) => reached.perform device (handler failure) := by
  rw [perform_eq, perform_eq, Editing.dialogue_tryCatch, Dialogue.play_bind]
  generalize (Editing.dialogue operation console.editor).play device console.stage = played
  obtain ⟨⟨result, editor⟩, stage⟩ := played
  cases result with
  | ok value => rfl
  | error failure => rfl

variable {device console}

/-- Where the first of two operations in a row is known to succeed, the second one goes on. -/
theorem perform_bind_of_ok {operation : Editing α} {rest : α → Editing β} {value : α}
    {reached : Console σ} (first : console.perform device operation = (.ok value, reached)) :
    console.perform device (operation >>= rest) = reached.perform device (rest value) := by
  rw [perform_bind, first]

/-- The course of two operations in a row, where the first one is known to succeed. -/
theorem course_bind_of_ok {operation : Editing α} {rest : α → Editing β} {value : α}
    {reached : Console σ} (first : console.perform device operation = (.ok value, reached)) :
    console.course device (operation >>= rest) =
      console.course device operation ++ reached.course device (rest value) := by
  unfold course
  rw [Editing.dialogue_bind, Dialogue.course_bind]
  rw [perform_eq] at first
  generalize (Editing.dialogue operation console.editor).play device console.stage = played at first ⊢
  obtain ⟨⟨result, editor⟩, stage⟩ := played
  cases first
  rfl

/-- Where the first of two operations in a row is known to fail, the second one is not carried out.
-/
theorem perform_bind_of_error {operation : Editing α} {rest : α → Editing β}
    {failure : TerminalError} {reached : Console σ}
    (first : console.perform device operation = (.error failure, reached)) :
    console.perform device (operation >>= rest) = (.error failure, reached) := by
  rw [perform_bind, first]

/-- Two operations in a row succeed if both do. -/
theorem perform_bind_eq_ok {operation : Editing α} {rest : α → Editing β} {result : β}
    {last : Console σ} :
    console.perform device (operation >>= rest) = (.ok result, last) ↔
      ∃ value reached, console.perform device operation = (.ok value, reached) ∧
        reached.perform device (rest value) = (.ok result, last) := by
  constructor
  · intro done
    rw [perform_bind] at done
    generalize console.perform device operation = outcome at done ⊢
    obtain ⟨failure | value, reached⟩ := outcome
    · cases done
    · exact ⟨value, reached, rfl, done⟩
  · intro ⟨value, reached, first, second⟩
    exact (perform_bind_of_ok first).trans second

end PromptLine.Console
