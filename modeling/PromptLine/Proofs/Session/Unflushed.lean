import PromptLine.Proofs.Console.Performing
import PromptLine.Proofs.Session.Conclusion
import PromptLine.Terminal.Faulty

/-!
# Sessions on a terminal that cannot flush

A terminal that does nothing about a flush answers every other call like the terminal inside. A
session on it is the same session: nothing but the flushes is missing from what a scripted terminal
records (`PromptLine.Console.readLine_unflushed`).

Two terminals simulate each other through a relation between their states if they answer every call
alike in related states, and are in related states afterwards. The same operation then comes to the
same on both (`PromptLine.Terminal.Simulates.perform`), so only single calls are left to compare.
-/

namespace PromptLine

variable {σ τ ρ α : Type}

/-- Two answers are the same but for the terminals, which are related. -/
structure Answer.Matches (related : σ → τ → Prop) (one : Answer σ ρ) (two : Answer τ ρ) :
    Prop where
  reply : two.reply = one.reply
  events : two.events = one.events
  terminal : related one.terminal two.terminal

/-- **Two terminals answer alike** in related states, and are in related states afterwards. -/
def Terminal.Simulates (first : Terminal σ) (second : Terminal τ) (related : σ → τ → Prop) :
    Prop :=
  ∀ call one two, related one two →
    (first.answer call one).Matches related (second.answer call two)

namespace Terminal.Simulates

variable {first : Terminal σ} {second : Terminal τ} {related : σ → τ → Prop}
  (simulates : first.Simulates second related)
include simulates

/-- A dialogue takes the same turns on both terminals. -/
theorem play (dialogue : Dialogue α) {one : Stage σ} {two : Stage τ}
    (holds : related one.terminal two.terminal) (events : two.events = one.events) :
    (dialogue.play second two).1 = (dialogue.play first one).1 ∧
      (dialogue.play second two).2.events = (dialogue.play first one).2.events ∧
      related (dialogue.play first one).2.terminal (dialogue.play second two).2.terminal := by
  induction dialogue generalizing one two with
  | done result => exact ⟨rfl, events, holds⟩
  | ask call next ih =>
    have answers := simulates call one.terminal two.terminal holds
    have noted : two.events ++ (second.answer call two.terminal).events =
        one.events ++ (first.answer call one.terminal).events := by
      rw [events, answers.events]
    unfold Dialogue.play
    dsimp only
    rw [answers.reply, noted]
    exact ih _ answers.terminal rfl
  | note event next ih => exact ih holds (congrArg (·.push event) events)

/-- **An operation comes to the same on both terminals.** -/
theorem perform (operation : Editing α) {one : Console σ} {two : Console τ}
    (editor : two.editor = one.editor) (holds : related one.stage.terminal two.stage.terminal)
    (events : two.stage.events = one.stage.events) :
    (two.perform second operation).1 = (one.perform first operation).1 ∧
      (two.perform second operation).2.editor = (one.perform first operation).2.editor ∧
      (two.perform second operation).2.stage.events =
        (one.perform first operation).2.stage.events ∧
      related (one.perform first operation).2.stage.terminal
        (two.perform second operation).2.stage.terminal := by
  obtain ⟨reached, noted, further⟩ :=
    simulates.play (Editing.dialogue operation one.editor) holds events
  rw [Console.perform_eq, Console.perform_eq, editor]
  exact ⟨congrArg Prod.fst reached, congrArg Prod.snd reached, noted, further⟩

end Terminal.Simulates

namespace Script

/-- **A script without the flushes.** It is like another one that recorded more since some time,
except that the flushes among the operations since then are missing. -/
def MissesFlushes (since : List Operation) (flushed unflushed : Script) : Prop :=
  ∃ recorded : List Operation, flushed.operations.toList = since ++ recorded ∧
    unflushed = { flushed with
      operations := (since ++ recorded.filter (· ≠ .flush)).toArray }

namespace MissesFlushes
variable {since : List Operation} {flushed unflushed : Script}

theorem refl (script : Script) :
    MissesFlushes script.operations.toList script script :=
  ⟨[], by simp, by simp⟩

/-- A read changes nothing that is recorded. -/
theorem afterRead (misses : MissesFlushes since flushed unflushed) (intercept : Bool) :
    MissesFlushes since (flushed.afterRead intercept) (unflushed.afterRead intercept) := by
  obtain ⟨recorded, operations, rfl⟩ := misses
  exact ⟨recorded, operations, rfl⟩

/-- An operation that is no flush is recorded in both. -/
theorem record (misses : MissesFlushes since flushed unflushed) {operation : Operation}
    (different : operation ≠ .flush) :
    MissesFlushes since (flushed.record operation) (unflushed.record operation) := by
  obtain ⟨recorded, operations, rfl⟩ := misses
  refine ⟨recorded ++ [operation], ?_, ?_⟩
  · simp [Script.record, operations]
  · simp [Script.record, different]

/-- An operation that is no flush fails on both or is recorded in both. -/
theorem screen (misses : MissesFlushes since flushed unflushed) (operation : Operation)
    (different : operation ≠ .flush) :
    (flushed.screen operation).Matches (MissesFlushes since) (unflushed.screen operation) := by
  have failure : unflushed.writeFailure? = flushed.writeFailure? := by
    obtain ⟨recorded, operations, rfl⟩ := misses
    rfl
  unfold Script.screen
  rw [failure]
  cases flushed.writeFailure? with
  | some kind => exact ⟨rfl, rfl, misses⟩
  | none => exact ⟨rfl, rfl, misses.record different⟩

/-- A flush is recorded in one of them only. It writes nothing and moves nothing. -/
theorem flush (misses : MissesFlushes since flushed unflushed) :
    MissesFlushes since (flushed.record .flush) unflushed := by
  obtain ⟨recorded, operations, rfl⟩ := misses
  have nothing : flushed.captured.write "" = flushed.captured := by
    simp [Captured.write]
  refine ⟨recorded ++ [.flush], ?_, ?_⟩
  · simp [Script.record, operations]
  · simp [Script.record, nothing, Operation.target?, Operation.text, advance]

end MissesFlushes

/-- Without flushing, a scripted terminal does the same about every other call. -/
theorem simulates_unflushed (since : List Operation) :
    terminal.Simulates terminal.unflushed (MissesFlushes since) := by
  intro call flushed unflushed misses
  have same := misses
  obtain ⟨recorded, operations, rfl⟩ := same
  cases call with
  | readKey intercept => exact ⟨rfl, rfl, misses.afterRead intercept⟩
  | write text => exact misses.screen (.write text) nofun
  | writeLine text => exact misses.screen (.writeLine text) nofun
  | cursorRow => exact ⟨rfl, rfl, misses⟩
  | width => exact ⟨rfl, rfl, misses⟩
  | move position => exact misses.screen (.move position) nofun
  | foreground color => exact misses.screen (.foreground color) nofun
  | resetColor => exact misses.screen .resetColor nofun
  | flush => exact ⟨rfl, rfl, misses.flush⟩

end Script

namespace Console

/-- **Flushing makes no difference to a session.** On a terminal that passes everything but flushes
on to a script, whatever the script is, a session comes to the same result, leaves the same editor
and notes the same events. It leaves the same script too, except that of the operations recorded
since the beginning the flushes are missing. With one key more than the script has, the session has
come to an outcome. -/
theorem readLine_unflushed (keys : Nat) (prompt : String) (console : Console Script) :
    let session := Editing.readLine keys prompt
    let flushed := console.perform Script.terminal session
    let unflushed := console.perform Script.terminal.unflushed session
    let since := console.stage.terminal.operations.toList
    unflushed.1 = flushed.1 ∧ unflushed.2.editor = flushed.2.editor ∧
      unflushed.2.stage.events = flushed.2.stage.events ∧
      (∃ recorded : List Operation,
        flushed.2.stage.terminal.operations.toList = since ++ recorded ∧
        unflushed.2.stage.terminal = { flushed.2.stage.terminal with
          operations := (since ++ recorded.filter (· ≠ .flush)).toArray }) ∧
      ((Input.keys console.stage.terminal.inputs).length < keys → flushed.1 ≠ .ok none) := by
  intro session flushed unflushed since
  obtain ⟨result, editor, events, missing⟩ :=
    (Script.simulates_unflushed since).perform session rfl (.refl console.stage.terminal) rfl
  exact ⟨result, editor, events, missing, console.readLine_ne_none prompt⟩

/-- A session on a terminal that is narrowed between two keys. It flushes after each of them, before
the first and after the last. -/
theorem readLine_unflushed_resized :
    let script : Script :=
      { inputs := [.key (.ofChar 'a'), .resize 3, .key (.ofCode .enter)], width := 5 }
    let console : Console Script := { editor := .standard, stage := { terminal := script } }
    let flushed := console.perform Script.terminal (Editing.readLine 3 "> ")
    let unflushed := console.perform Script.terminal.unflushed (Editing.readLine 3 "> ")
    (Input.keys script.inputs).length < 3 ∧ flushed.1 ≠ .ok none ∧ unflushed.1 = flushed.1 ∧
      flushed.2.stage.terminal.operations.toList.count .flush = 4 ∧
      unflushed.2.stage.terminal.operations.toList =
        flushed.2.stage.terminal.operations.toList.filter (· ≠ .flush) := by
  intro script console
  have enough : (Input.keys script.inputs).length < 3 := by decide
  have pairs := readLine_unflushed 3 "> " console
  dsimp only at pairs ⊢
  obtain ⟨result, -, -, ⟨recorded, all, others⟩, outcome⟩ := pairs
  refine ⟨enough, outcome enough, result, by decide +kernel, ?_⟩
  rw [others, all]
  rfl

end Console

end PromptLine
