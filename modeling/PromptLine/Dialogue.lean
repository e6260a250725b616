import PromptLine.Log.Event
import PromptLine.Terminal.Call

/-!
# Dialogues with a terminal

A dialogue is a finite tree: it ends with a result, or makes a call and goes on in a way that
depends on the answer, or notes an event and goes on. What a part of the editor does to a terminal
is a dialogue, and so it is known before any terminal is chosen.

A terminal is a way to answer every call from a state. Playing a dialogue on a terminal makes the
calls one after the other, collects the events in order and ends with the result.

`Talk` is a dialogue that may fail: the first failure ends it.

Dialogues obey the laws of a monad, and `Dialogue.play_bind` says that playing respects them.
-/

namespace PromptLine

/-- **A dialogue with a terminal.** -/
inductive Dialogue (α : Type) where
  | done (result : α)
  | ask (call : Call) (next : Except TerminalError call.Reply → Dialogue α)
  | note (event : Event) (next : Dialogue α)

namespace Dialogue

/-- A dialogue followed by another that depends on its result. -/
def bind {α β : Type} : Dialogue α → (α → Dialogue β) → Dialogue β
  | .done result, rest => rest result
  | .ask call next, rest => .ask call fun reply => (next reply).bind rest
  | .note event next, rest => .note event (next.bind rest)

instance : Monad Dialogue where
  pure := .done
  bind := bind

variable {α β γ : Type}

@[simp] theorem pure_eq (result : α) : (pure result : Dialogue α) = .done result := rfl

@[simp] theorem done_bind (result : α) (rest : α → Dialogue β) :
    (Dialogue.done result >>= rest) = rest result := rfl

@[simp] theorem ask_bind (call : Call) (next : Except TerminalError call.Reply → Dialogue α)
    (rest : α → Dialogue β) :
    (Dialogue.ask call next >>= rest) = .ask call fun reply => next reply >>= rest := rfl

@[simp] theorem note_bind (event : Event) (next : Dialogue α) (rest : α → Dialogue β) :
    (Dialogue.note event next >>= rest) = .note event (next >>= rest) := rfl

/-- A dialogue followed by one that only gives the result is the same dialogue. -/
theorem bind_done (dialogue : Dialogue α) : dialogue >>= Dialogue.done = dialogue := by
  induction dialogue with
  | done result => rfl
  | ask call next ih => simp only [ask_bind, ih]
  | note event next ih => simp only [note_bind, ih]

/-- It does not matter how three dialogues in a row are grouped. -/
theorem bind_assoc (dialogue : Dialogue α) (first : α → Dialogue β) (second : β → Dialogue γ) :
    dialogue >>= first >>= second = dialogue >>= fun result => first result >>= second := by
  induction dialogue with
  | done result => rfl
  | ask call next ih => simp only [ask_bind, ih]
  | note event next ih => simp only [note_bind, ih]

instance : LawfulMonad Dialogue :=
  LawfulMonad.mk' Dialogue bind_done done_bind bind_assoc

end Dialogue

/-- What a terminal does about a call: its answer, the state it is in afterwards, and the events
that it notes of its own. -/
structure Answer (σ ρ : Type) where
  reply : Except TerminalError ρ
  terminal : σ
  events : List Event := []

/-- **A terminal** whose state is of type `σ`: it answers every call. -/
structure Terminal (σ : Type) where
  answer : (call : Call) → σ → Answer σ call.Reply

/-- A terminal in some state, and the events noted so far, the newest last. -/
structure Stage (σ : Type) where
  terminal : σ
  events : Array Event := #[]

namespace Dialogue

/-- Play a dialogue on a terminal. -/
def play {σ α : Type} (device : Terminal σ) : Dialogue α → Stage σ → α × Stage σ
  | .done result, stage => (result, stage)
  | .ask call next, stage =>
    let answer := device.answer call stage.terminal
    (next answer.reply).play device
      { terminal := answer.terminal, events := stage.events ++ answer.events }
  | .note event next, stage => next.play device { stage with events := stage.events.push event }

/-- The second of two dialogues in a row is played on the stage that the first one leaves. -/
theorem play_bind {σ α β : Type} (device : Terminal σ) (dialogue : Dialogue α)
    (rest : α → Dialogue β) (stage : Stage σ) :
    (dialogue >>= rest).play device stage =
      (rest (dialogue.play device stage).1).play device (dialogue.play device stage).2 := by
  induction dialogue generalizing stage with
  | done result => rfl
  | ask call next ih => simp only [ask_bind, play, ih]
  | note event next ih => simp only [note_bind, play, ih]

end Dialogue

/-- A dialogue that ends at the first failure. -/
abbrev Talk := ExceptT TerminalError Dialogue

namespace Talk

/-- Make one call. The talk fails as the call does. -/
def call (c : Call) : Talk c.Reply := ExceptT.mk (.ask c .done)

/-- Note one event, which cannot fail. -/
def note (event : Event) : Talk Unit := ExceptT.mk (.note event (.done (.ok ())))

/-- Play a dialogue that may fail. -/
def play {σ α : Type} (device : Terminal σ) (talk : Talk α) (stage : Stage σ) :
    Except TerminalError α × Stage σ :=
  Dialogue.play device talk.run stage

end Talk

end PromptLine
