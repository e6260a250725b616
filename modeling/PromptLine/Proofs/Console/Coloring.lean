import PromptLine.Proofs.Editor.Keeping
import PromptLine.Proofs.Session.Failure
import PromptLine.Rehearsal

/-!
# The colour after an error message

An error message is a line in red, and after it the usual colour is asked for again. If the line
cannot be written, nothing more is asked of the terminal, and it stays red. That is the only way in
which it does (`PromptLine.Console.takesBackRed_writeErrorLine_run`): an error message takes back
the colour exactly if its text was written, and a whole run of the loop leaves the terminal red
exactly if it breaks off at the text of an error message.

The proof goes by composition. An operation that succeeds takes back every change of the colour, and
one that fails does too, unless its last two calls are the change to red and the line
(`PromptLine.Exchange.MindsRed`). Everything but an error message leaves the colour alone.
-/

namespace PromptLine

namespace Exchange

/-- What is written from now on is red. -/
def Reddens (exchange : Exchange) : Prop :=
  exchange.call = .foreground .red ∧ exchange.failure? = none

/-- **Red is taken back**: after every change to red the usual colour is asked for. -/
def TakesBackRed (exchanges : List Exchange) : Prop :=
  ∀ before red after, exchanges = before ++ red :: after → red.Reddens →
    ∃ reset ∈ after, reset.call = .resetColor

/-- The calls break off in red, at a line that could not be written. -/
def BreaksOffRed (exchanges : List Exchange) : Prop :=
  ∃ before red written, exchanges = before ++ [red, written] ∧ red.Reddens ∧
    written.call.kind = .writeLine ∧ written.failure? ≠ none

/-- An operation that made these calls takes red back, unless they break off in red. -/
structure MindsRed {α : Type} (exchanges : List Exchange) (result : Except TerminalError α) :
    Prop where
  succeeds : ∀ value, result = .ok value → TakesBackRed exchanges
  takesBack_or : TakesBackRed exchanges ∨ BreaksOffRed exchanges

/-- The calls of an error message, and what it comes to. -/
inductive Warns (text : String) : List Exchange → Except TerminalError Unit → Prop where
  /-- The colour cannot be changed. -/
  | uncolored (failure : TerminalError) :
      Warns text [⟨.foreground .red, .error failure⟩] (.error failure)
  /-- The text cannot be written. -/
  | unwritten (failure : TerminalError) :
      Warns text [⟨.foreground .red, .ok ()⟩, ⟨.writeLine text, .error failure⟩] (.error failure)
  /-- The text is written, and the usual colour is asked for. -/
  | written (reply : Except TerminalError Unit) {flushes : List Exchange}
      (only : ∀ exchange ∈ flushes, exchange.call = .flush) (result : Except TerminalError Unit) :
      Warns text (⟨.foreground .red, .ok ()⟩ :: ⟨.writeLine text, .ok ()⟩ :: ⟨.resetColor, reply⟩ ::
        flushes) result

variable {α β : Type} {exchange : Exchange} {exchanges first second : List Exchange}
  {value : α} {result : Except TerminalError β}

/-- One more exchange in front has to be taken back if it reddens. -/
theorem takesBackRed_cons :
    TakesBackRed (exchange :: exchanges) ↔
      (exchange.Reddens → ∃ reset ∈ exchanges, reset.call = .resetColor) ∧
        TakesBackRed exchanges := by
  constructor
  · intro takesBack
    refine ⟨takesBack [] exchange exchanges rfl, ?_⟩
    intro before red after split
    exact takesBack (exchange :: before) red after (congrArg (exchange :: ·) split)
  · intro ⟨now, later⟩ before red after split reddens
    cases before with
    | nil =>
      obtain ⟨rfl, rfl⟩ := List.cons.inj split
      exact now reddens
    | cons head before => exact later before red after (List.cons.inj split).2 reddens

/-- There is nothing to take back where the colour is not changed to red. -/
theorem takesBackRed_of_forall (plain : ∀ exchange ∈ exchanges, ¬ exchange.Reddens) :
    TakesBackRed exchanges := by
  intro before red after split reddens
  have member : red ∈ exchanges := split ▸ List.mem_append_right _ List.mem_cons_self
  exact absurd reddens (plain red member)

/-- Red that is taken back in both of two parts is taken back in the whole. -/
theorem TakesBackRed.append (takesBack : TakesBackRed first) (further : TakesBackRed second) :
    TakesBackRed (first ++ second) := by
  induction first with
  | nil => exact further
  | cons head rest ih =>
    obtain ⟨now, later⟩ := takesBackRed_cons.mp takesBack
    refine takesBackRed_cons.mpr ⟨fun reddens => ?_, ih later⟩
    obtain ⟨reset, member, asked⟩ := now reddens
    exact ⟨reset, List.mem_append_left _ member, asked⟩

/-- What breaks off at the end breaks off whatever came before. -/
theorem BreaksOffRed.append (breaksOff : BreaksOffRed second) :
    BreaksOffRed (first ++ second) := by
  obtain ⟨before, red, written, rfl, described⟩ := breaksOff
  exact ⟨first ++ before, red, written, (List.append_assoc ..).symm, described⟩

/-- Calls that break off in red do not take it back. -/
theorem BreaksOffRed.not_takesBackRed (breaksOff : BreaksOffRed exchanges) :
    ¬ TakesBackRed exchanges := by
  obtain ⟨before, red, written, rfl, reddens, line, -⟩ := breaksOff
  intro takesBack
  obtain ⟨reset, member, asked⟩ := takesBack before red [written] rfl reddens
  rw [List.mem_singleton.mp member] at asked
  rw [asked] at line
  cases line

/-- Red is taken back just if the calls do not break off after red was set. -/
theorem MindsRed.takesBackRed_iff (minds : MindsRed exchanges result) :
    TakesBackRed exchanges ↔ ¬ BreaksOffRed exchanges :=
  ⟨fun takesBack breaksOff => breaksOff.not_takesBackRed takesBack,
    minds.takesBack_or.resolve_right⟩

/-- Two parts in a row that mind red do so together. -/
theorem MindsRed.append (minds : MindsRed first (.ok value)) (further : MindsRed second result) :
    MindsRed (first ++ second) result where
  succeeds last done := (minds.succeeds value rfl).append (further.succeeds last done)
  takesBack_or := further.takesBack_or.imp (minds.succeeds value rfl).append BreaksOffRed.append

/-- Red that could not be set need not be taken back. -/
theorem takesBackRed_uncolored (failure : TerminalError) :
    TakesBackRed [⟨.foreground .red, .error failure⟩] := by
  apply takesBackRed_of_forall
  refine List.forall_mem_singleton.mpr fun reddens => ?_
  cases reddens.2

/-- When the text cannot be written, the calls break off with red still set. -/
theorem breaksOffRed_unwritten (text : String) (failure : TerminalError) :
    BreaksOffRed [⟨.foreground .red, .ok ()⟩, ⟨.writeLine text, .error failure⟩] :=
  ⟨[], _, _, rfl, ⟨rfl, rfl⟩, rfl, nofun⟩

/-- A text in red that was written is followed by the colour that was before. -/
theorem takesBackRed_written (text : String) (reply : Except TerminalError Unit)
    (only : ∀ exchange ∈ exchanges, exchange.call = .flush) :
    TakesBackRed (⟨.foreground .red, .ok ()⟩ :: ⟨.writeLine text, .ok ()⟩ ::
      ⟨.resetColor, reply⟩ :: exchanges) := by
  have later : TakesBackRed (⟨.writeLine text, .ok ()⟩ :: ⟨.resetColor, reply⟩ :: exchanges) := by
    apply takesBackRed_of_forall
    refine List.forall_mem_cons.mpr ⟨nofun, List.forall_mem_cons.mpr ⟨nofun, ?_⟩⟩
    intro exchange member reddens
    cases (only exchange member).symm.trans reddens.1
  refine takesBackRed_cons.mpr ⟨fun _ => ⟨⟨.resetColor, reply⟩, ?_, rfl⟩, later⟩
  exact List.mem_cons_of_mem _ List.mem_cons_self

namespace Warns
variable {text : String} {outcome : Except TerminalError Unit}

/-- An error message takes red back, unless its text cannot be written. -/
theorem takesBackRed_iff (warns : Warns text exchanges outcome) :
    TakesBackRed exchanges ↔
      ∀ written ∈ exchanges, written.call = .writeLine text → written.failure? = none := by
  cases warns with
  | uncolored failure =>
    refine iff_of_true (takesBackRed_uncolored failure) ?_
    exact List.forall_mem_singleton.mpr nofun
  | unwritten failure =>
    refine iff_of_false (breaksOffRed_unwritten text failure).not_takesBackRed ?_
    intro succeeds
    cases succeeds _ (List.mem_cons_of_mem _ List.mem_cons_self) rfl
  | written reply only =>
    refine iff_of_true (takesBackRed_written text reply only) ?_
    refine List.forall_mem_cons.mpr ⟨nofun, List.forall_mem_cons.mpr ⟨fun _ => rfl,
      List.forall_mem_cons.mpr ⟨nofun, ?_⟩⟩⟩
    intro exchange member line
    cases (only exchange member).symm.trans line

/-- A warning minds red. -/
theorem mindsRed (warns : Warns text exchanges outcome) : MindsRed exchanges outcome := by
  cases warns with
  | uncolored failure => exact ⟨nofun, Or.inl (takesBackRed_uncolored failure)⟩
  | unwritten failure => exact ⟨nofun, Or.inr (breaksOffRed_unwritten text failure)⟩
  | written reply only =>
    have takesBack := takesBackRed_written text reply only
    exact ⟨fun _ _ => takesBack, Or.inl takesBack⟩

end Warns

end Exchange

namespace Editing

variable {α β : Type}

/-- Whatever the terminal answers, the operation takes red back, unless it breaks off in red. -/
def MindsRed (operation : Editing α) (editor : Editor) : Prop :=
  operation.Ensures editor fun course result _ => Exchange.MindsRed (Moment.exchanges course) result

/-- Whatever happens, it is not that the colour is changed. -/
def Colorless : Moment → Prop
  | .answered exchange => exchange.call.kind ≠ .foreground
  | .noted _ => True

/-- Sessions leave the colour alone. -/
theorem upholds_colorless : Upholds (fun _ => True) Colorless where
  width _ := nofun
  cursorRow _ := nofun
  flush _ := nofun
  moves _ _ := nofun
  writes _ _ _ _ := nofun
  repaints _ _ _ _ := trivial
  notes _ := trivial
  handled _ _ _ := trivial
  reads _ := nofun
  breaks _ := nofun
  toEnd _ _ := trivial
  clears _ _ := trivial
  enters _ _ := trivial

namespace MindsRed
variable {operation : Editing α} {rest : α → Editing β} {editor : Editor}

/-- An operation that sets no colour minds red. -/
theorem of_colorless (colorless : KeepsTo (fun _ => True) Colorless operation editor) :
    operation.MindsRed editor := by
  apply Ensures.mono colorless
  intro course result after ⟨_, within⟩
  have takesBack : Exchange.TakesBackRed (Moment.exchanges course) := by
    apply Exchange.takesBackRed_of_forall
    intro exchange member reddens
    apply within _ (Moment.mem_exchanges.mp member)
    rw [reddens.1]
    rfl
  exact ⟨fun _ _ => takesBack, Or.inl takesBack⟩

/-- Two operations in a row mind red if both do. -/
theorem bind (first : operation.MindsRed editor)
    (second : ∀ value after, (rest value).MindsRed after) :
    (operation >>= rest).MindsRed editor := by
  apply ensures_bind.mpr
  apply first.mono
  intro course result after minds
  cases result with
  | error failure => exact ⟨nofun, minds.takesBack_or⟩
  | ok value =>
    apply (second value after).mono
    intro more result last further
    rw [Moment.exchanges_append]
    exact minds.append further

theorem get_bind {rest : Editor → Editing β} (second : (rest editor).MindsRed editor) :
    (get >>= rest).MindsRed editor :=
  ensures_get_bind.mpr second

theorem pure (value : α) : (Pure.pure value : Editing α).MindsRed editor :=
  .of_colorless (.pure value trivial)

end MindsRed

/-- A line of the usual colour minds red. -/
theorem mindsRed_writeLine (text : String) (editor : Editor) :
    (talk (Talk.writeLine text)).MindsRed editor := by
  apply MindsRed.of_colorless
  unfold Talk.writeLine
  rw [talk_bind]
  exact .bind (.call (fun _ => nofun) trivial) fun _ _ _ => .call (fun _ => nofun) trivial

/-- A call that other operations come after ensures what they do, unless it fails. -/
theorem ensures_call_bind {c : Call} {rest : c.Reply → Editing β} {editor : Editor}
    {post : List Moment → Except TerminalError β → Editor → Prop}
    (fails : ∀ failure, post [.answered ⟨c, .error failure⟩] (.error failure) editor)
    (succeeds : ∀ value, (rest value).Ensures editor fun more =>
      post (.answered ⟨c, .ok value⟩ :: more)) :
    (call c >>= rest).Ensures editor post := by
  apply ensures_bind.mpr
  apply (ensures_call c).mpr
  intro reply
  cases reply with
  | error failure => exact fails failure
  | ok value => exact succeeds value

/-- An error message makes its calls one after the other, up to the first that fails. -/
theorem ensures_writeErrorLine (text : String) (editor : Editor) :
    (talk (Talk.writeErrorLine text)).Ensures editor fun course result _ =>
      Exchange.Warns text (Moment.exchanges course) result := by
  unfold Talk.writeErrorLine
  simp only [talk_bind]
  apply ensures_call_bind Exchange.Warns.uncolored
  intro _
  apply ensures_call_bind Exchange.Warns.unwritten
  intro _
  apply ensures_call_bind
  · intro failure
    exact .written (.error failure) (List.forall_mem_nil _) (.error failure)
  · intro _ flushed
    exact .written (.ok ()) (List.forall_mem_singleton.mpr rfl) flushed

/-- An error that is shown is a warning, and so it minds red. -/
theorem mindsRed_writeErrorLine (text : String) (editor : Editor) :
    (talk (Talk.writeErrorLine text)).MindsRed editor :=
  (ensures_writeErrorLine text editor).mono fun _ _ _ warns => warns.mindsRed

/-- Several lines of the usual colour mind red. -/
theorem mindsRed_writeLines (lines : List String) (editor : Editor) :
    (talk (Repl.writeLines lines)).MindsRed editor := by
  induction lines generalizing editor with
  | nil => exact .pure ()
  | cons line rest ih =>
    unfold Repl.writeLines
    rw [talk_bind]
    exact (mindsRed_writeLine line editor).bind fun _ after => ih after

/-- Obeying a command minds red. Only an empty history is answered in that colour. -/
theorem mindsRed_obey (command : Repl.Command) (editor : Editor) :
    (Repl.obey command).MindsRed editor := by
  cases command with
  | info => exact (mindsRed_writeLine _ editor).bind fun _ _ => .pure _
  | history =>
    apply MindsRed.get_bind
    dsimp only
    split
    · exact (mindsRed_writeErrorLine _ editor).bind fun _ _ => .pure _
    · exact (mindsRed_writeLines _ editor).bind fun _ _ => .pure _
  | clearHistory =>
    have cleared : MindsRed (modify fun editor => { editor with history := editor.history.clear })
        editor := .of_colorless (.modify trivial)
    exact cleared.bind fun _ after => (mindsRed_writeLine _ after).bind fun _ _ => .pure _
  | exit => exact .pure _

/-- What becomes of a line that was entered minds red. -/
theorem mindsRed_process (line : String) (editor : Editor) :
    (Repl.process line).MindsRed editor := by
  apply MindsRed.get_bind
  split
  · exact .pure _
  cases Repl.Command.ofName? (Text.trim line) with
  | some command => exact mindsRed_obey command editor
  | none => exact (mindsRed_writeLine _ editor).bind fun _ _ => .pure _

/-- A run of the loop takes red back, whatever is entered. -/
theorem mindsRed_run (keys lines : Nat) (editor : Editor) :
    (Repl.run keys lines).MindsRed editor := by
  induction lines generalizing editor with
  | zero => exact .pure _
  | succ lines ih =>
    have session : (readLine keys Repl.prompt).MindsRed editor :=
      .of_colorless (upholds_colorless.readLine trivial keys)
    unfold Repl.run
    apply session.bind
    intro reading? after
    cases reading? with
    | none => exact .pure _
    | some reading =>
      cases reading with
      | endOfInput => exact .pure _
      | line text =>
        apply (mindsRed_process text after).bind
        intro flow next
        cases flow with
        | stop => exact .pure _
        | goOn => exact ih next

end Editing

namespace Console

variable {σ : Type}

/-- **Red is left only where the text of an error message fails.** Whatever the terminal answers, an
error message that changes the colour asks for the usual one again, except if its text cannot be
written; and a run of the loop does so after every error message, except if it breaks off at the
text of the last one. -/
theorem takesBackRed_writeErrorLine_run (device : Terminal σ) (console : Console σ) (text : String)
    (keys lines : Nat) :
    let message := Moment.exchanges (console.course device (Editing.talk (Talk.writeErrorLine text)))
    let loop := Moment.exchanges (console.course device (Repl.run keys lines))
    (Exchange.TakesBackRed message ↔ ∀ written ∈ message, written.call = .writeLine text →
        written.failure? = none) ∧
      (Exchange.TakesBackRed loop ↔ ¬ Exchange.BreaksOffRed loop) := by
  intro message loop
  have warns : Exchange.Warns text message _ :=
    console.perform_of_ensures device (Editing.ensures_writeErrorLine text console.editor)
  have minds : Exchange.MindsRed loop _ :=
    console.perform_of_ensures device (Editing.mindsRed_run keys lines console.editor)
  exact ⟨warns.takesBackRed_iff, minds.takesBackRed_iff⟩

/-- An error message on a terminal whose first line cannot be written. The colour is changed, and
the usual one is never asked for. -/
theorem takesBackRed_writeErrorLine_unwritten :
    let fault : Fault := { call := .writeLine, after := 0, kind := .brokenPipe }
    let script : Script := { inputs := [], width := 20 }
    let console : Rehearsal :=
      { editor := .standard, stage := { terminal := { faults := [fault], inner := script } } }
    let message := Talk.writeErrorLine "boom"
    ¬ Exchange.TakesBackRed
      (Moment.exchanges (console.course Rehearsal.device (Editing.talk message))) := by
  intro fault script console message takesBack
  obtain ⟨reset, member, asked⟩ := takesBack [] ⟨.foreground .red, .ok ()⟩
    [⟨.writeLine "boom", .error (.io .brokenPipe)⟩] rfl ⟨rfl, rfl⟩
  rw [List.mem_singleton.mp member] at asked
  cases asked

end Console

end PromptLine
