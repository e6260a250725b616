import Mathlib.Data.List.DropRight
import PromptLine.Proofs.Script.Replaying

/-!
# What a scripted terminal records

A scripted terminal keeps two records of what was done on its screen: the operations, and the bytes
of what was written. A step drops both records, or adds the operation of a call that succeeded to
both, or leaves both as they are (`PromptLine.Script.Notes`). So in every run the bytes are those of
a text, that of the operations one after the other (`PromptLine.Script.Agrees`), and the operations
are those of the calls that succeeded since the records were last dropped
(`PromptLine.Script.operations_afterAll`).

While writes fail, everything that would be done on the screen fails and leaves the terminal as it
is (`PromptLine.Script.answer_of_failing`). Flushing does nothing on the screen: it succeeds and is
recorded then too.
-/

namespace PromptLine

namespace Call

/-- Whether it does something on the screen. Flushing only shows what was done. -/
def IsOnScreen : Call → Prop
  | .write _ | .writeLine _ | .move _ | .foreground _ | .resetColor => True
  | .readKey _ | .cursorRow | .width | .flush => False

/-- What a call is recorded as. Questions are not recorded. -/
def operation? : Call → Option Operation
  | .write text => some (.write text)
  | .writeLine text => some (.writeLine text)
  | .move position => some (.move position)
  | .foreground color => some (.foreground color)
  | .resetColor => some .resetColor
  | .flush => some .flush
  | .readKey _ | .cursorRow | .width => none

/-- The text that a call writes. -/
def text : Call → String
  | .write text => text
  | .writeLine text => text ++ "\n"
  | _ => ""

/-- Where a call moves the cursor to, if that is what it asks for. -/
def target? : Call → Option Position
  | .move position => some position
  | _ => none

/-- A call that is recorded moves the cursor to where its record says. -/
theorem operation?_bind_target? (call : Call) :
    call.operation?.bind Operation.target? = call.target? := by
  cases call with
  | _ => rfl

/-- A call that is recorded writes what its record says. -/
theorem text_eq (call : Call) : call.text = (call.operation?.map Operation.text).getD "" := by
  cases call with
  | _ => rfl

/-- The texts of what some calls are recorded as are the texts that they write. -/
theorem join_text_operation? (calls : List Call) :
    String.join ((calls.filterMap operation?).map Operation.text) =
      String.join (calls.map text) := by
  induction calls with
  | nil => rfl
  | cons call rest ih =>
    rw [List.map_cons, String.join_cons, ← ih, text_eq]
    cases recorded : call.operation? with
    | none =>
      rw [List.filterMap_cons_none recorded]
      exact String.empty_append.symm
    | some operation =>
      rw [List.filterMap_cons_some recorded, List.map_cons, String.join_cons]
      rfl

end Call

namespace Captured
variable {captured : Captured} {text : String}

/-- What was captured are the bytes of a text. -/
def Holds (text : String) (captured : Captured) : Prop := captured.bytes = text.toUTF8

/-- Where nothing was captured, the text is empty. -/
theorem holds_empty : empty.Holds "" := rfl

/-- A text that is written comes after what was captured before. -/
theorem Holds.write (holds : captured.Holds text) (more : String) :
    (captured.write more).Holds (text ++ more) := by
  change captured.bytes ++ more.toUTF8 = (text ++ more).toUTF8
  simp only [String.toUTF8_eq_toByteArray, String.toByteArray_append]
  rw [holds, String.toUTF8_eq_toByteArray]

/-- The text is read back. -/
theorem Holds.text?_eq (holds : captured.Holds text) : captured.text? = some text := by
  unfold text? String.fromUTF8?
  rw [holds, String.toUTF8_eq_toByteArray, dif_pos text.isValidUTF8]
  rfl

end Captured

namespace Script
variable {script : Script}

/-! ### One call -/

section Failing
variable {kind : FailureKind} (failing : script.writeFailure? = some kind)
include failing

/-- While writes fail, an operation on the screen fails with the failure that is set and changes
nothing. -/
theorem screen_of_failing (operation : Operation) :
    script.screen operation = { reply := .error (.io kind), terminal := script } := by
  unfold screen
  rw [failing]

/-- **While writes fail**, nothing is done on the screen, and the terminal stays as it is. -/
theorem answer_of_failing {call : Call} (onScreen : call.IsOnScreen) :
    terminal.answer call script = { reply := .error (.io kind), terminal := script } := by
  cases call with
  | write text => exact screen_of_failing failing (.write text)
  | writeLine text => exact screen_of_failing failing (.writeLine text)
  | move position => exact screen_of_failing failing (.move position)
  | foreground color => exact screen_of_failing failing (.foreground color)
  | resetColor => exact screen_of_failing failing .resetColor
  | readKey intercept => cases onScreen
  | cursorRow | width | flush => cases onScreen

end Failing

/-- As long as writes succeed, what is done on the screen is recorded. -/
theorem exists_answer_of_works (works : script.writeFailure? = none) {call : Call}
    (onScreen : call.IsOnScreen) :
    ∃ operation, call.operation? = some operation ∧
      ∃ reply, terminal.answer call script =
        { reply := .ok reply, terminal := script.record operation } := by
  cases call with
  | write text => exact ⟨_, rfl, (), screen_of_works works (.write text)⟩
  | writeLine text => exact ⟨_, rfl, (), screen_of_works works (.writeLine text)⟩
  | move position => exact ⟨_, rfl, (), screen_of_works works (.move position)⟩
  | foreground color => exact ⟨_, rfl, (), screen_of_works works (.foreground color)⟩
  | resetColor => exact ⟨_, rfl, (), screen_of_works works .resetColor⟩
  | readKey intercept => cases onScreen
  | cursorRow | width | flush => cases onScreen

/-! ### One step -/

namespace Step

/-- The call that a step makes, if it succeeds. -/
def success? (script : Script) : Step → Option Call
  | .ask call =>
    match (terminal.answer call script).reply with
    | .ok _ => some call
    | .error _ => none
  | _ => none

/-- What a step is recorded as. -/
def operation? (script : Script) (step : Step) : Option Operation :=
  (step.success? script).bind Call.operation?

/-- What a step sets writes to fail with, if it changes that. -/
def failure? : Step → Option (Option FailureKind)
  | .failWrites failure? => some failure?
  | _ => none

/-- A call that succeeds is recorded as what it is. -/
theorem operation?_of_ok {call : Call} {reply : call.Reply}
    (ok : (terminal.answer call script).reply = .ok reply) :
    operation? script (.ask call) = call.operation? := by
  simp only [operation?, success?, ok, Option.bind_some]

/-- A call that fails is not recorded. -/
theorem operation?_of_error {call : Call} {error : TerminalError}
    (failed : (terminal.answer call script).reply = .error error) :
    operation? script (.ask call) = none := by
  simp only [operation?, success?, failed, Option.bind_none]

end Step

/-- **What one step does to the record.** It drops it, or adds the operation of a call that
succeeds, or leaves it as it is. -/
inductive Notes (script : Script) : Step → Prop where
  | drops : Notes script .clearRecording
  | adds {step : Step} {operation : Operation} (noted : step.operation? script = some operation)
      (after : step.after script = script.record operation) : Notes script step
  | keeps {step : Step} (silent : step.operation? script = none)
      (operations : (step.after script).operations = script.operations)
      (captured : (step.after script).captured = script.captured) : Notes script step

/-- A call that changes the screen is noted if it succeeds, and leaves the record otherwise. -/
theorem notes_of_isOnScreen (script : Script) {call : Call} (onScreen : call.IsOnScreen) :
    script.Notes (.ask call) := by
  cases failure : script.writeFailure? with
  | some kind =>
    have answer := answer_of_failing failure onScreen
    have after : Step.after script (.ask call) = script := congrArg Answer.terminal answer
    have silent : Step.operation? script (.ask call) = none :=
      Step.operation?_of_error (congrArg Answer.reply answer)
    exact .keeps silent (congrArg Script.operations after) (congrArg Script.captured after)
  | none =>
    obtain ⟨operation, recorded, reply, answer⟩ := exists_answer_of_works failure onScreen
    have noted : Step.operation? script (.ask call) = some operation :=
      (Step.operation?_of_ok (congrArg Answer.reply answer)).trans recorded
    exact .adds noted (congrArg Answer.terminal answer)

/-- **Every step** drops the record, adds its operation, or leaves the record as it is. -/
theorem notes (script : Script) (step : Step) : script.Notes step := by
  cases step with
  | clearRecording => exact .drops
  | push inputs => exact .keeps rfl rfl rfl
  | failWrites failure? => exact .keeps rfl rfl rfl
  | ask call =>
    cases call with
    | readKey intercept =>
      have silent : Step.operation? script (.ask (.readKey intercept)) = none := by
        cases read : (terminal.answer (.readKey intercept) script).reply with
        | ok reply => exact Step.operation?_of_ok read
        | error error => exact Step.operation?_of_error read
      exact .keeps silent rfl rfl
    | cursorRow | width => exact .keeps rfl rfl rfl
    | flush => exact .adds rfl rfl
    | write _ | writeLine _ | move _ | foreground _ | resetColor =>
      exact script.notes_of_isOnScreen trivial

/-- A step adds to the operations the one that it is recorded as, unless it drops them. -/
theorem operations_after (script : Script) {step : Step} (kept : step ≠ .clearRecording) :
    (step.after script).operations.toList =
      script.operations.toList ++ (step.operation? script).toList := by
  cases script.notes step with
  | drops => exact absurd rfl kept
  | adds noted after =>
    rw [noted, after]
    exact Array.toList_push
  | keeps silent operations captured =>
    rw [silent, operations]
    exact (List.append_nil _).symm

/-- Writes fail as they did before, unless the step changes that. -/
theorem writeFailure?_after (script : Script) (step : Step) :
    (step.after script).writeFailure? = step.failure?.getD script.writeFailure? := by
  cases step with
  | push inputs | clearRecording | failWrites failure? => rfl
  | ask call =>
    cases call with
    | readKey intercept => rfl
    | _ => exact (shows_answer (by nofun) script).writeFailure?_eq

/-- **The two records agree**: what was captured is the text of the operations. -/
def Agrees (script : Script) : Prop :=
  script.captured.Holds (String.join (script.operations.toList.map Operation.text))

namespace Agrees

/-- One more operation keeps the two records in agreement. -/
theorem record (agrees : script.Agrees) (operation : Operation) :
    (script.record operation).Agrees := by
  have texts : String.join ((script.record operation).operations.toList.map Operation.text) =
      String.join (script.operations.toList.map Operation.text) ++ operation.text := by
    simp only [Script.record, Array.toList_push, List.map_append, String.join_append, List.map_cons,
      List.map_nil, String.join_cons, String.join_nil, String.append_empty]
  unfold Agrees
  rw [texts]
  exact Captured.Holds.write agrees operation.text

/-- One step keeps the two records in agreement. -/
theorem after (agrees : script.Agrees) (step : Step) : (step.after script).Agrees := by
  cases script.notes step with
  | drops => exact Captured.holds_empty
  | adds noted after =>
    rw [after]
    exact agrees.record _
  | keeps silent operations captured =>
    unfold Agrees at *
    rw [operations, captured]
    exact agrees

/-- **Steps in a row keep the two records in agreement.** -/
theorem afterAll (agrees : script.Agrees) (steps : List Step) :
    (script.afterAll steps).Agrees := by
  induction steps generalizing script with
  | nil => exact agrees
  | cons step rest ih => exact ih (agrees.after step)

end Agrees

/-! ### A run -/

/-- The calls among some steps that succeed, in order. -/
def successes : List Step → Script → List Call
  | [], _ => []
  | step :: rest, script => (step.success? script).toList ++ successes rest (step.after script)

/-- The steps up to the last one that drops the record. -/
def untilDropped (steps : List Step) : List Step := steps.rdropWhile (· ≠ .clearRecording)

/-- The steps since the record was last dropped. -/
def sinceDropped (steps : List Step) : List Step := steps.rtakeWhile (· ≠ .clearRecording)

/-- Every step is up to the last one that drops the record, or since it. -/
theorem untilDropped_append_sinceDropped (steps : List Step) :
    untilDropped steps ++ sinceDropped steps = steps :=
  List.rdropWhile_append_rtakeWhile

/-- The record is not dropped any more after it was last dropped. -/
theorem clearRecording_not_mem_sinceDropped (steps : List Step) :
    .clearRecording ∉ sinceDropped steps := by
  intro member
  have kept := List.mem_rtakeWhile_imp member
  exact of_decide_eq_true kept rfl

/-- **As long as the record is kept**, the operations of the calls that succeed are added to it. -/
theorem operations_afterAll (script : Script) {steps : List Step} (kept : .clearRecording ∉ steps) :
    (script.afterAll steps).operations.toList =
      script.operations.toList ++ (successes steps script).filterMap Call.operation? := by
  induction steps generalizing script with
  | nil => exact (List.append_nil _).symm
  | cons step rest ih =>
    have this : step ≠ .clearRecording := fun same => kept (same ▸ List.mem_cons_self)
    have others : .clearRecording ∉ rest := fun member => kept (List.mem_cons_of_mem _ member)
    change ((step.after script).afterAll rest).operations.toList = script.operations.toList ++
      ((step.success? script).toList ++ successes rest (step.after script)).filterMap _
    rw [ih (step.after script) others, operations_after script this, List.filterMap_append,
      List.append_assoc]
    congr 2
    unfold Step.operation?
    cases step.success? script with
    | none => rfl
    | some call => rfl

/-- The record is empty when it was just dropped. -/
theorem operations_untilDropped (empty : script.operations = #[]) (steps : List Step) :
    (script.afterAll (untilDropped steps)).operations = #[] := by
  by_cases never : untilDropped steps = []
  · rw [never]
    exact empty
  · -- The last of these steps is the one that `rdropWhile` stopped at.
    have last : (untilDropped steps).getLast never = .clearRecording := by
      have dropped := List.rdropWhile_last_not _ steps never
      exact of_not_not fun kept => dropped (decide_eq_true kept)
    rw [← List.dropLast_append_getLast never, last, afterAll_append]
    rfl

/-- Writes fail as the last step that changes it has set. -/
theorem writeFailure?_afterAll (script : Script) (steps : List Step) :
    (script.afterAll steps).writeFailure? =
      (steps.filterMap Step.failure?).getLast?.getD script.writeFailure? := by
  induction steps generalizing script with
  | nil => rfl
  | cons step rest ih =>
    refine (ih (step.after script)).trans ?_
    rw [writeFailure?_after]
    cases changes : step.failure? with
    | none =>
      rw [List.filterMap_cons_none changes]
      rfl
    | some failure? =>
      rw [List.filterMap_cons_some changes, List.getLast?_cons]
      rfl

/-- **The recordings of every run agree.** The recorded operations are the calls that succeeded
since the record was last dropped, in order. The output is a text, that of these operations and so
what those calls wrote, and the recorded moves are the moves among them. Whether writes fail is what
the last step that changes it has set. If they do, everything that would be done on the screen fails
for that reason and leaves the terminal as it is, and otherwise it succeeds. -/
theorem recordings_agree (inputs : List Input) (width : UInt16) (cursor : Position)
    (steps : List Step) :
    let start : Script := { inputs, width, cursor }
    let now := start.afterAll steps
    let calls := successes (sinceDropped steps) (start.afterAll (untilDropped steps))
    now.operations.toList = calls.filterMap Call.operation? ∧
      now.output? = some (String.join (now.operations.toList.map Operation.text)) ∧
      now.output? = some (String.join (calls.map Call.text)) ∧
      now.moves = calls.filterMap Call.target? ∧
      now.writeFailure? = (steps.filterMap Step.failure?).getLast?.getD none ∧
      (∀ kind, now.writeFailure? = some kind → ∀ call : Call, call.IsOnScreen →
        terminal.answer call now = { reply := .error (.io kind), terminal := now }) ∧
      (now.writeFailure? = none → ∀ call : Call, call.IsOnScreen →
        ∃ reply, (terminal.answer call now).reply = .ok reply) := by
  intro start now calls
  have agrees : start.Agrees := Captured.holds_empty
  have operations : now.operations.toList = calls.filterMap Call.operation? := by
    have split : now =
        (start.afterAll (untilDropped steps)).afterAll (sinceDropped steps) := by
      rw [← afterAll_append, untilDropped_append_sinceDropped]
    rw [split, operations_afterAll _ (clearRecording_not_mem_sinceDropped steps),
      operations_untilDropped rfl]
    rfl
  have output : now.output? = some (String.join (now.operations.toList.map Operation.text)) :=
    (agrees.afterAll steps).text?_eq
  refine ⟨operations, output, ?written, ?moves, start.writeFailure?_afterAll steps, ?fails, ?works⟩
  case written => rw [output, operations, Call.join_text_operation?]
  case moves =>
    unfold moves
    rw [operations, List.filterMap_filterMap]
    exact congrArg (calls.filterMap ·) (funext Call.operation?_bind_target?)
  case fails =>
    intro kind failing call onScreen
    exact answer_of_failing failing onScreen
  case works =>
    intro works call onScreen
    obtain ⟨_, _, reply, answer⟩ := exists_answer_of_works works onScreen
    exact ⟨reply, congrArg Answer.reply answer⟩

/-- The record is dropped after the first text, the third one is refused, and the flush after it is
recorded. -/
theorem recordings_agree_failing :
    let steps : List Step :=
      [.ask (.write "ab"), .clearRecording, .ask (.move { col := 1, row := 0 }),
        .ask (.writeLine "né"), .failWrites (some .brokenPipe), .ask (.write "x"), .ask .flush]
    let now := ({ inputs := [], width := 4 } : Script).afterAll steps
    now.writeFailure? = some .brokenPipe ∧
      now.operations.toList = [.move { col := 1, row := 0 }, .writeLine "né", .flush] ∧
      now.output? = some "né\n" ∧ now.moves = [{ col := 1, row := 0 }] ∧
      terminal.answer .resetColor now =
        { reply := .error (.io .brokenPipe), terminal := now } := by
  intro steps now
  obtain ⟨operations, -, output, moves, -, failing, -⟩ :=
    recordings_agree [] 4 { col := 0, row := 0 } steps
  exact ⟨rfl, operations, output, moves, failing _ rfl _ trivial⟩

end Script

end PromptLine
