import PromptLine.Geometry
import PromptLine.Line
import PromptLine.Settings

/-!
# The editor

An editor holds a line, where it stands on the screen, the history, the key bindings and the
settings. `Editing` is an operation on it: a dialogue with a terminal that changes the editor and
may fail. What was changed before a failure stays changed.
-/

namespace PromptLine

/-- **A line editor**: the line that is being edited, the lines entered before and what the keys
mean. -/
structure Editor where
  line : Line := {}
  /-- Where the line stands on the screen, once that is known. -/
  geometry : Option Geometry := none
  history : History
  bindings : Bindings := Bindings.standard
  settings : Settings := {}
deriving DecidableEq, Repr

namespace Editor

/-- An editor with an empty history and no line yet. -/
def new (settings : Settings) (bindings : Bindings) : Editor where
  history := History.empty settings.historyCapacity
  bindings := bindings
  settings := settings

/-- The editor of someone who asks for nothing in particular. -/
def standard : Editor := new {} Bindings.standard

/-- The editor with another capacity of its history, now and in its settings. -/
def setHistoryCapacity (capacity : Nat) (editor : Editor) : Editor :=
  { editor with
    settings := { editor.settings with historyCapacity := capacity }
    history := editor.history.setCapacity capacity }

end Editor

/-- **An operation of the editor** on a terminal. -/
abbrev Editing := ExceptT TerminalError (StateT Editor Dialogue)

namespace Editing

/-- Talk to the terminal. The editor stays as it is. -/
def talk {α : Type} (talk : Talk α) : Editing α :=
  ExceptT.mk (StateT.lift talk.run)

/-- Make one call to the terminal. -/
def call (c : Call) : Editing c.Reply := talk (Talk.call c)

/-- Note one event. -/
def note (event : Event) : Editing Unit := talk (Talk.note event)

/-- Change the line, without painting it. -/
def modifyLine (change : Line → Line) : Editing Unit :=
  modify fun editor => { editor with line := change editor.line }

/-- The dialogue of an operation from a state of the editor. -/
def dialogue {α : Type} (operation : Editing α) (editor : Editor) :
    Dialogue (Except TerminalError α × Editor) :=
  operation.run.run editor

section Laws
variable {α β : Type}

@[simp] theorem dialogue_pure (result : α) (editor : Editor) :
    dialogue (pure result) editor = .done (.ok result, editor) := rfl

/-- The second of two operations goes on from the editor that the first one leaves, unless the
first one failed. -/
theorem dialogue_bind (operation : Editing α) (rest : α → Editing β) (editor : Editor) :
    dialogue (operation >>= rest) editor = dialogue operation editor >>= fun
      | (.ok result, editor) => dialogue (rest result) editor
      | (.error failure, editor) => .done (.error failure, editor) := by
  simp only [dialogue, ExceptT.run_bind, StateT.run_bind]
  congr 1; funext reached
  rcases reached with ⟨result | result, editor⟩ <;> rfl

@[simp] theorem dialogue_get (editor : Editor) :
    dialogue get editor = .done (.ok editor, editor) := rfl

@[simp] theorem dialogue_set (next editor : Editor) :
    dialogue (set next) editor = .done (.ok (), next) := rfl

@[simp] theorem dialogue_modify (change : Editor → Editor) (editor : Editor) :
    dialogue (modify change) editor = .done (.ok (), change editor) := rfl

@[simp] theorem dialogue_throw (failure : TerminalError) (editor : Editor) :
    dialogue (throw failure : Editing α) editor = .done (.error failure, editor) := rfl

/-- A failure is handled from the editor that it leaves. -/
theorem dialogue_tryCatch (operation : Editing α) (handler : TerminalError → Editing α)
    (editor : Editor) :
    dialogue (tryCatch operation handler) editor = dialogue operation editor >>= fun
      | (.ok result, editor) => .done (.ok result, editor)
      | (.error failure, editor) => dialogue (handler failure) editor := by
  simp only [dialogue, tryCatch, tryCatchThe, MonadExceptOf.tryCatch, ExceptT.tryCatch]
  show (ExceptT.run operation >>= _ : StateT Editor Dialogue _).run editor = _
  rw [StateT.run_bind]
  congr 1; funext reached
  rcases reached with ⟨result | result, editor⟩ <;> rfl

/-- A talk is its own dialogue, and the editor stays as it is. -/
theorem dialogue_talk (talk : Talk α) (editor : Editor) :
    dialogue (Editing.talk talk) editor = talk.run >>= fun result => .done (result, editor) := rfl

@[simp] theorem dialogue_call (c : Call) (editor : Editor) :
    dialogue (call c) editor = .ask c fun reply => .done (reply, editor) := rfl

@[simp] theorem dialogue_note (event : Event) (editor : Editor) :
    dialogue (note event) editor = .note event (.done (.ok (), editor)) := rfl

end Laws

/-- Enter a text into the history, and note the entry that has to go. -/
def remember (text : String) : Editing Unit := do
  let history := (← get).history
  if let some entry := history.evictedBy? text then
    note (.evicted entry history.capacity)
  modify fun editor => { editor with history := editor.history.add text }

/-- Enter texts into the history, one after the other. -/
def rememberAll : List String → Editing Unit
  | [] => pure ()
  | text :: rest => do
    remember text
    rememberAll rest

/-- Take the line to start where the terminal's cursor is. -/
def captureGeometry : Editing Unit := do
  let geometry ← talk Geometry.capture
  modify fun editor => { editor with geometry := some geometry }

end Editing

end PromptLine
