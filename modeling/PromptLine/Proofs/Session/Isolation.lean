import Mathlib.Data.List.Basic
import PromptLine.Proofs.Console.Performing
import PromptLine.Terminal.Scripted

/-!
# What a session knows of those before it

A session knows the history that the earlier ones left, and nothing else of them: neither the line
nor the place on the screen that they ended with matters, however they ended
(`PromptLine.Console.readLine_isolated`).

A session asks the terminal where its line is to stand before it does anything else. From the answer
on, the editor is made of the new prompt, the answer and what all sessions share
(`PromptLine.Editing.dialogue_readLine`). Only when there is no answer does the old place remain.

The two sessions need not be held on the same terminal. On a terminal that answers the calls of a
dialogue as they were answered before, the dialogue takes the same course again
(`PromptLine.Terminal.Answers.play`).
-/

namespace PromptLine

namespace Terminal.Answers
variable {σ τ α : Type} {device : Terminal σ}

theorem of_nil {terminal last : σ} (answers : device.Answers terminal [] last) :
    last = terminal := by
  cases answers with
  | nil => rfl

/-- A terminal that answers calls answers the first one, and then the others. -/
theorem of_cons {terminal last : σ} {exchange : Exchange} {exchanges : List Exchange}
    (answers : device.Answers terminal (exchange :: exchanges) last) :
    (device.answer exchange.call terminal).reply = exchange.reply ∧
      device.Answers (device.answer exchange.call terminal).terminal exchanges last := by
  cases answers with
  | cons call _ _ _ further => exact ⟨rfl, further⟩

/-- A terminal that answers some calls and then others is in some state between them. -/
theorem of_append {terminal last : σ} {first second : List Exchange}
    (answers : device.Answers terminal (first ++ second) last) :
    ∃ middle, device.Answers terminal first middle ∧ device.Answers middle second last := by
  induction first generalizing terminal with
  | nil => exact ⟨terminal, .nil terminal, answers⟩
  | cons exchange first ih =>
    cases answers with
    | cons call _ _ _ further =>
      obtain ⟨middle, before, after⟩ := ih further
      exact ⟨middle, .cons call _ _ _ before, after⟩

/-- **The same dialogue on another terminal.** If the other terminal answers the calls as they were
answered, the dialogue takes the same course on it and comes to the same result. -/
theorem play {other : Terminal τ} {dialogue : Dialogue α} {stage : Stage σ} {otherStage : Stage τ}
    {last : τ} (answers : other.Answers otherStage.terminal
      (Moment.exchanges (dialogue.course device stage.terminal)) last) :
    dialogue.course other otherStage.terminal = dialogue.course device stage.terminal ∧
      (dialogue.play other otherStage).1 = (dialogue.play device stage).1 ∧
      (dialogue.play other otherStage).2.terminal = last := by
  induction dialogue generalizing stage otherStage with
  | done result => exact ⟨rfl, rfl, answers.of_nil.symm⟩
  | ask call next ih =>
    have reply : (other.answer call otherStage.terminal).reply =
        (device.answer call stage.terminal).reply := answers.of_cons.1
    let answer := device.answer call stage.terminal
    let answered : Stage σ :=
      { terminal := answer.terminal, events := stage.events ++ answer.events }
    let otherAnswer := other.answer call otherStage.terminal
    let otherAnswered : Stage τ :=
      { terminal := otherAnswer.terminal, events := otherStage.events ++ otherAnswer.events }
    obtain ⟨course, result, reached⟩ :=
      @ih answer.reply answered otherAnswered answers.of_cons.2
    unfold Dialogue.course Dialogue.play
    dsimp only
    rw [reply]
    exact ⟨congrArg (Moment.answered _ :: ·) course, result, reached⟩
  | note event next ih =>
    obtain ⟨course, result, reached⟩ :=
      @ih { stage with events := stage.events.push event }
        { otherStage with events := otherStage.events.push event } answers
    exact ⟨congrArg (Moment.noted event :: ·) course, result, reached⟩

end Terminal.Answers

namespace Editing

/-- What follows in a session once it is known where the line stands. -/
def goOn (keys : Nat) : Editing (Option Reading) :=
  tryCatch (do repaint; call .flush; handleKeys keys) fun error => do
    note (.failed error)
    throw error

/-- **A session**, from the question where its line stands. -/
theorem dialogue_readLine (keys : Nat) (prompt : String) (editor : Editor) :
    dialogue (readLine keys prompt) editor = Geometry.capture.run >>= fun
      | .ok geometry =>
        dialogue (goOn keys)
          { editor with line := Line.start prompt, geometry := some geometry }
      | .error failure =>
        .note (.failed failure)
          (.done (.error failure, { editor with line := Line.start prompt })) := by
  unfold readLine begin modifyLine captureGeometry goOn
  simp only [bind_assoc, dialogue_tryCatch, dialogue_bind, dialogue_modify, dialogue_talk,
    Dialogue.done_bind]
  congr 1
  funext located
  cases located with
  | error failure => rfl
  | ok geometry => exact bind_assoc _ _ _

end Editing

namespace Console

variable {σ τ : Type}

/-- The console of a session whose line stands in a known place. -/
def located (prompt : String) (geometry : Geometry) (stage : Stage σ) (console : Console σ) :
    Console σ where
  editor := { console.editor with line := Line.start prompt, geometry := some geometry }
  stage := stage

/-- The calls of an operation are answered by the terminal that it is carried out on. -/
theorem answers_course {α : Type} (device : Terminal σ) (operation : Editing α)
    (console : Console σ) : device.Answers console.stage.terminal
      (Moment.exchanges (console.course device operation))
      (console.perform device operation).2.stage.terminal :=
  Dialogue.answers_course device (Editing.dialogue operation console.editor) console.stage

/-- An operation that is carried out again by the same editor, on a terminal that answers its calls
as they were answered, comes to the same. -/
theorem perform_of_answers {α : Type} {first : Terminal σ} {second : Terminal τ}
    {operation : Editing α} {one : Console σ} {two : Console τ} {last : τ}
    (same : two.editor = one.editor) (answers : second.Answers two.stage.terminal
      (Moment.exchanges (one.course first operation)) last) :
    two.course second operation = one.course first operation ∧
      (two.perform second operation).1 = (one.perform first operation).1 ∧
      (two.perform second operation).2.editor = (one.perform first operation).2.editor := by
  obtain ⟨course, reached, -⟩ := answers.play
  unfold Console.course
  rw [perform_eq, perform_eq, same]
  exact ⟨course, congrArg Prod.fst reached, congrArg Prod.snd reached⟩

section Question
variable {device : Terminal σ} {console : Console σ} {stage : Stage σ} (keys : Nat)
  (prompt : String)

/-- When it is known where the line stands, the session goes on from there. -/
theorem readLine_of_located {geometry : Geometry}
    (answered : Geometry.capture.play device console.stage = (.ok geometry, stage)) :
    console.perform device (Editing.readLine keys prompt) =
        (console.located prompt geometry stage).perform device (Editing.goOn keys) ∧
      console.course device (Editing.readLine keys prompt) =
        Geometry.capture.run.course device console.stage.terminal ++
          (console.located prompt geometry stage).course device (Editing.goOn keys) := by
  unfold Talk.play at answered
  unfold course
  rw [perform_eq, perform_eq, Editing.dialogue_readLine, Dialogue.play_bind, Dialogue.course_bind,
    answered]
  exact ⟨rfl, rfl⟩

/-- Without an answer the session has failed, and the line stands where it stood before. -/
theorem readLine_of_not_located {failure : TerminalError}
    (refused : Geometry.capture.play device console.stage = (.error failure, stage)) :
    console.perform device (Editing.readLine keys prompt) =
        (.error failure, notes (.failed failure)
          { editor := { console.editor with line := Line.start prompt }, stage }) ∧
      console.course device (Editing.readLine keys prompt) =
        Geometry.capture.run.course device console.stage.terminal ++
          [.noted (.failed failure)] := by
  unfold Talk.play at refused
  unfold course
  rw [perform_eq, Editing.dialogue_readLine, Dialogue.play_bind, Dialogue.course_bind, refused]
  exact ⟨rfl, rfl⟩

end Question

/-- **Sessions are isolated.** Two editors with the same history, bindings and settings hold the
same session after the same prompt, on terminals that answer the same calls alike, whatever lines
and places on the screen earlier sessions left to them: the calls and the events are the same, and
so are the result, the line and the history. Unless the first question, where the line stands, was
not answered, the editors are the same in every respect; if it was not, that is the result of both,
and each still has the place that it had before. -/
theorem readLine_isolated (first : Terminal σ) (second : Terminal τ) (one : Console σ)
    (two : Console τ) (history : two.editor.history = one.editor.history)
    (bindings : two.editor.bindings = one.editor.bindings)
    (settings : two.editor.settings = one.editor.settings) (keys : Nat) (prompt : String) (last : τ)
    (answers : second.Answers two.stage.terminal
      (Moment.exchanges (one.course first (Editing.readLine keys prompt))) last) :
    let earlier := one.perform first (Editing.readLine keys prompt)
    let later := two.perform second (Editing.readLine keys prompt)
    later.1 = earlier.1 ∧
      two.course second (Editing.readLine keys prompt) =
        one.course first (Editing.readLine keys prompt) ∧
      later.2.editor.line = earlier.2.editor.line ∧
      later.2.editor.history = earlier.2.editor.history ∧
      match (Geometry.capture.play first one.stage).1 with
      | .ok _ => later.2.editor = earlier.2.editor
      | .error failure => earlier.1 = .error failure ∧
          earlier.2.editor.geometry = one.editor.geometry ∧
          later.2.editor.geometry = two.editor.geometry := by
  intro earlier later
  rcases located : Geometry.capture.play first one.stage with ⟨failure | geometry, stage⟩
  · obtain ⟨performed, course⟩ := one.readLine_of_not_located keys prompt located
    rw [course, Moment.exchanges_append] at answers
    obtain ⟨middle, question, -⟩ := answers.of_append
    obtain ⟨asked, answer, -⟩ := question.play
    have again : Geometry.capture.play second two.stage = (.error failure, _) :=
      Prod.ext (answer.trans (congrArg Prod.fst located)) rfl
    obtain ⟨performedAgain, courseAgain⟩ := two.readLine_of_not_located keys prompt again
    simp only [earlier, later, performed, performedAgain, course, courseAgain, asked, notes,
      history, and_self]
  · obtain ⟨performed, course⟩ := one.readLine_of_located keys prompt located
    rw [course, Moment.exchanges_append] at answers
    obtain ⟨middle, question, rest⟩ := answers.of_append
    obtain ⟨asked, answer, reached⟩ := question.play
    have again : Geometry.capture.play second two.stage = (.ok geometry, _) :=
      Prod.ext (answer.trans (congrArg Prod.fst located)) rfl
    obtain ⟨performedAgain, courseAgain⟩ := two.readLine_of_located keys prompt again
    have same : (two.located prompt geometry (Geometry.capture.play second two.stage).2).editor =
        (one.located prompt geometry stage).editor := by
      simp only [Console.located, history, bindings, settings]
    rw [← reached] at rest
    obtain ⟨went, result, left⟩ := perform_of_answers same rest
    simp only [earlier, later, performed, performedAgain, course, courseAgain, asked, went, result,
      left, and_self]

/-- An editor with a line that was entered, the cursor inside it, and a narrow place far down the
screen, reads the same line as a new editor. -/
theorem readLine_isolated_stale :
    let script : Script :=
      { inputs := Script.typing "ab" ++ [.key (.ofCode .left), .resize 3, .key (.ofCode .enter)]
        width := 4 }
    let stale : Line :=
      { prompt := "old> ", text := ['x', 'y', 'z'], cursor := 1, finished := true }
    let place : Geometry := { firstRow := 9, width := 2, maxPrinted := 40 }
    let one : Console Script := { editor := .standard, stage := { terminal := script } }
    let two : Console Script :=
      { one with editor := { one.editor with line := stale, geometry := some place } }
    two.editor.history = one.editor.history ∧ two.editor.bindings = one.editor.bindings ∧
      two.editor.settings = one.editor.settings ∧
      (∃ last, Script.terminal.Answers two.stage.terminal
        (Moment.exchanges (one.course Script.terminal (Editing.readLine 4 "> "))) last) ∧
      (two.perform Script.terminal (Editing.readLine 4 "> ")).1 = .ok (some (.line "ab")) ∧
      (two.perform Script.terminal (Editing.readLine 4 "> ")).2.editor =
        (one.perform Script.terminal (Editing.readLine 4 "> ")).2.editor := by
  intro script stale place one two
  have answers := one.answers_course Script.terminal (Editing.readLine 4 "> ")
  have located : (Geometry.capture.play Script.terminal one.stage).1 =
      .ok { firstRow := 0, width := 4 } := by
    decide +kernel
  have read : (one.perform Script.terminal (Editing.readLine 4 "> ")).1 =
      .ok (some (.line "ab")) := by
    decide +kernel
  have isolated := readLine_isolated Script.terminal Script.terminal one two rfl rfl rfl 4 "> " _
    answers
  dsimp only at isolated
  rw [located] at isolated
  exact ⟨rfl, rfl, rfl, ⟨_, answers⟩, isolated.1.trans read, isolated.2.2.2.2⟩

end Console

end PromptLine
