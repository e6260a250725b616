import Mathlib.Logic.Function.Iterate
import PromptLine.Proofs.Repl.Replies
import PromptLine.Proofs.Session.Conclusion
import PromptLine.Proofs.Session.Ending

/-!
# The rounds of the loop

On a tame terminal the loop goes through rounds: a line is entered and replied to
(`PromptLine.Repl.Round`). Every round takes at least one key from the script, the one that enters
the line, so the loop comes to an end: with the first line that says so, or with the input
(`PromptLine.Repl.Runs`). In between the history changes by the lines that are entered, and is
emptied by the command for that (`PromptLine.Repl.remembered`).
-/

namespace PromptLine

/-- When the line is entered, fewer keys are left. -/
theorem Input.length_keys_afterEnter_lt {bindings : Bindings} {inputs : List Input}
    (enters : ∃ key ∈ keys inputs, bindings.enters key) :
    (keys (afterEnter bindings inputs)).length < (keys inputs).length := by
  induction inputs with
  | nil => simp [keys] at enters
  | cons input rest ih =>
    cases input with
    | resize width => exact ih enters
    | fail kind => exact ih enters
    | key pressed =>
      by_cases now : bindings.enters pressed
      · rw [afterEnter_of_enters now, keys_key]
        exact Nat.lt_succ_self _
      · obtain ⟨key, member, later⟩ := enters
        rw [keys_key] at member
        have further : key ∈ keys rest := by
          rcases List.mem_cons.mp member with rfl | further
          · exact absurd later now
          · exact further
        rw [afterEnter_of_not_enters now, keys_key]
        exact Nat.lt_succ_of_lt (ih ⟨key, further, later⟩)

namespace Repl

/-- The history after a line was entered. An empty line is not always kept. -/
def entering (settings : Settings) (history : History) (text : String) : History :=
  if text ≠ "" ∨ settings.keepsEmptyLines then history.add text else history

/-- The history after a line was entered and replied to. The name of the command that empties the
history is entered like any other line, and goes with the other entries. -/
def remembered (settings : Settings) (history : History) (text : String) : History :=
  if Names text .clearHistory then
    { entering settings history text with entries := [], browsing := none }
  else entering settings history text

/-- A line that is entered leaves the capacity of the history as it is. -/
theorem capacity_entering (settings : Settings) (history : History) (text : String) :
    (entering settings history text).capacity = history.capacity := by
  unfold entering
  split
  · exact history.capacity_add text
  · rfl

/-- A line that is entered and replied to leaves the capacity of the history as it is. -/
theorem capacity_remembered (settings : Settings) (history : History) (text : String) :
    (remembered settings history text).capacity = history.capacity := by
  unfold remembered
  split <;> exact capacity_entering settings history text

/-- The capacity is never changed by the lines that are entered. -/
theorem capacity_foldl_remembered (settings : Settings) (history : History) (lines : List String) :
    (lines.foldl (remembered settings) history).capacity = history.capacity := by
  induction lines generalizing history with
  | nil => rfl
  | cons text rest ih => exact (ih _).trans (capacity_remembered settings history text)

section Agrees
variable {first second : History} (agrees : first.Agrees second) (settings : Settings)
  (text : String)
include agrees

/-- Histories that agree do so after the same line was entered. -/
theorem agrees_entering :
    (entering settings first text).Agrees (entering settings second text) := by
  unfold entering
  split
  · exact agrees.add text
  · exact agrees

/-- What is remembered does not depend on the place of browsing. -/
theorem agrees_remembered :
    (remembered settings first text).Agrees (remembered settings second text) := by
  have entered := agrees_entering agrees settings text
  unfold remembered
  split
  · exact ⟨rfl, entered.capacity⟩
  · exact entered

/-- What some lines leave does not depend on the place of browsing either. -/
theorem agrees_foldl_remembered (lines : List String) :
    (lines.foldl (remembered settings) first).Agrees (lines.foldl (remembered settings) second) := by
  induction lines generalizing first second with
  | nil => exact agrees
  | cons text rest ih => exact ih (agrees_remembered agrees settings text)

end Agrees

/-- **The command that empties the history**: what was entered before makes no difference to what
is left in the end. -/
theorem agrees_foldl_cleared (settings : Settings) (history : History) {text : String}
    (clears : Names text .clearHistory) (earlier later : List String) :
    (later.foldl (remembered settings) (History.empty history.capacity)).Agrees
      ((earlier ++ text :: later).foldl (remembered settings) history) := by
  rw [List.foldl_append, List.foldl_cons]
  refine agrees_foldl_remembered ?_ settings later
  rw [remembered, if_pos clears]
  exact ⟨rfl, (capacity_entering ..).trans (capacity_foldl_remembered ..)⟩

/-- **A round of the loop**: a line is entered, however many keys may be read beyond those of the
script, and replied to. -/
structure Round (start : Console Script) (text : String) (entered : Console Script)
    (calls : List Call) (flow : Flow) (next : Console Script) : Prop where
  read : ∀ budget, (Input.keys start.stage.terminal.inputs).length < budget →
    start.perform Script.terminal (Editing.readLine budget prompt) =
      (.ok (some (.line text)), entered)
  content : entered.editor.line.content = text
  history : (entering start.editor.settings start.editor.history text).Agrees
    entered.editor.history
  settings : entered.editor.settings = start.editor.settings
  bindings : entered.editor.bindings = start.editor.bindings
  enters : ∃ key ∈ Input.keys start.stage.terminal.inputs, start.editor.bindings.enters key
  inputs : entered.stage.terminal.inputs =
    Input.afterEnter start.editor.bindings start.stage.terminal.inputs
  tame : entered.stage.terminal.Tame
  replies : Replies text entered.editor calls flow next.editor
  makes : entered.Makes (process text) calls flow next

/-- **A run of the loop** with the lines that were entered. -/
inductive Runs : Console Script → List String → Console Script → Prop where
  /-- The input ended. -/
  | ended {start last : Console Script}
      (read : ∀ budget, (Input.keys start.stage.terminal.inputs).length < budget →
        start.perform Script.terminal (Editing.readLine budget prompt) =
          (.ok (some .endOfInput), last))
      (history : start.editor.history.Agrees last.editor.history)
      (inputs : last.stage.terminal.inputs = []) :
      Runs start [] last
  /-- The line ended the loop. -/
  | stopped {start entered last : Console Script} {text : String} {calls : List Call}
      (round : Round start text entered calls .stop last) : Runs start [text] last
  /-- The loop went on after the line. -/
  | wentOn {start entered next last : Console Script} {text : String} {calls : List Call}
      {lines : List String} (round : Round start text entered calls .goOn next)
      (rest : Runs next lines last) : Runs start (text :: lines) last

section Session
variable {start : Console Script} (tame : start.stage.terminal.Tame)
include tame

/-- A line that is entered is replied to. -/
theorem round_of_line {text : String} {entered : Console Script}
    (read : ∀ budget, (Input.keys start.stage.terminal.inputs).length < budget →
      start.perform Script.terminal (Editing.readLine budget prompt) =
        (.ok (some (.line text)), entered))
    (enters : ∃ key ∈ Input.keys start.stage.terminal.inputs, start.editor.bindings.enters key)
    (inputs : entered.stage.terminal.inputs =
      Input.afterEnter start.editor.bindings start.stage.terminal.inputs) :
    ∃ calls flow next, Round start text entered calls flow next := by
  obtain ⟨keys, console, attends, -, content, rfl⟩ :=
    (Console.concludes_readLine tame.sound (read _ (Nat.lt_succ_self _))).of_line
  have kept := attends.keepsHistory
  have still : console.commits.stage.terminal.Tame :=
    console.shows_commits.tame (attends.tame tame)
  have line : console.commits.editor.line.content = text := by
    rw [Console.commits_editor]
    exact content
  obtain ⟨calls, flow, _, next, replies, rfl, makes⟩ := makes_process still.works line
  refine ⟨calls, flow, next, ?_⟩
  exact {
    read, enters, inputs, replies, makes
    content := line
    history := by
      rw [Console.commits_editor, content, kept.settings]
      exact agrees_entering kept.history _ text
    settings := by
      rw [Console.commits_editor]
      exact kept.settings
    bindings := by
      rw [Console.commits_editor]
      exact (attends.finished_iff tame.sound).1
    tame := still }

/-- The loop begins with a round, or with the end of the input. -/
theorem round_or_end : (∃ text entered calls flow next, Round start text entered calls flow next) ∨
    ∃ last, Runs start [] last := by
  let keys := Input.keys start.stage.terminal.inputs
  let reading := (start.editor.ending keys).reading
  let last := (start.perform Script.terminal (Editing.readLine (keys.length + 1) prompt)).2
  have ends := start.ends_readLine (keys.length + 1) prompt tame (Nat.lt_succ_self _)
  have read : ∀ budget, keys.length < budget →
      start.perform Script.terminal (Editing.readLine budget prompt) = (.ok (some reading), last) :=
    fun budget enough => Console.perform_readLine_of_le enough (Prod.ext ends.reading rfl)
  cases outcome : reading with
  | line text =>
    rw [outcome] at read
    have enters := (start.editor.ending_reading_iff keys).mp ⟨text, outcome⟩
    obtain ⟨calls, flow, next, round⟩ := round_of_line tame read enters ends.inputs
    exact Or.inl ⟨text, last, calls, flow, next, round⟩
  | endOfInput =>
    rw [outcome] at read
    have silent : ∀ key ∈ keys, ¬ start.editor.bindings.enters key := by
      intro key member enters
      obtain ⟨text, entered⟩ := (start.editor.ending_reading_iff keys).mpr ⟨key, member, enters⟩
      cases outcome.symm.trans entered
    have drained := ends.inputs.trans (Input.afterEnter_of_forall silent)
    obtain ⟨typed, console, attends, -, -, abandoned⟩ :=
      (Console.concludes_readLine tame.sound (read _ (Nat.lt_succ_self _))).of_endOfInput
    have kept := attends.keepsHistory.history
    exact Or.inr ⟨last, .ended read (abandoned ▸ kept) drained⟩

end Session

namespace Round
variable {start entered next : Console Script} {text : String} {calls : List Call} {flow : Flow}

/-- Nothing is read while a line is replied to. -/
theorem left (round : Round start text entered calls flow next) :
    next.stage.terminal.inputs =
      Input.afterEnter start.editor.bindings start.stage.terminal.inputs :=
  round.makes.shows.inputs_eq.trans round.inputs

/-- A round takes a key. -/
theorem fewer (round : Round start text entered calls flow next) :
    (Input.keys next.stage.terminal.inputs).length <
      (Input.keys start.stage.terminal.inputs).length := by
  rw [round.left]
  exact Input.length_keys_afterEnter_lt round.enters

/-- A round leaves the settings as they are. -/
theorem settings_next (round : Round start text entered calls flow next) :
    next.editor.settings = start.editor.settings := by
  rw [round.replies.after_eq, ← round.settings]
  split <;> rfl

/-- A round leaves the bindings as they are. -/
theorem bindings_next (round : Round start text entered calls flow next) :
    next.editor.bindings = start.editor.bindings := by
  rw [round.replies.after_eq, ← round.bindings]
  split <;> rfl

/-- A round changes the history by the line that was entered, and by the command that empties it. -/
theorem remembers (round : Round start text entered calls flow next) :
    (remembered start.editor.settings start.editor.history text).Agrees next.editor.history := by
  rw [round.replies.after_eq]
  unfold remembered
  split
  · exact ⟨rfl, round.history.capacity⟩
  · exact round.history

/-- A terminal that is tame before a round is tame after it. -/
theorem tame_next (round : Round start text entered calls flow next) :
    next.stage.terminal.Tame :=
  round.makes.shows.tame round.tame

/-- A round reads a line and acts on it. -/
theorem performed (round : Round start text entered calls flow next) {budget : Nat}
    (enough : (Input.keys start.stage.terminal.inputs).length < budget) :
    start.perform Script.terminal (do let _ ← Editing.readLine budget prompt; process text) =
      (.ok flow, next) :=
  (Console.perform_bind_of_ok (round.read budget enough)).trans round.makes.performed

end Round

/-- **The loop comes to an end** on a tame terminal. -/
theorem exists_runs (start : Console Script) (tame : start.stage.terminal.Tame) :
    ∃ lines last, Runs start lines last := by
  generalize count : (Input.keys start.stage.terminal.inputs).length = n
  induction n using Nat.strongRecOn generalizing start with
  | _ n ih =>
    rcases round_or_end tame with ⟨text, entered, calls, flow, next, round⟩ | ⟨last, ended⟩
    · cases flow with
      | stop => exact ⟨[text], next, .stopped round⟩
      | goOn =>
        obtain ⟨lines, last, rest⟩ := ih _ (count ▸ round.fewer) next round.tame_next rfl
        exact ⟨text :: lines, last, .wentOn round rest⟩
    · exact ⟨[], last, ended⟩

namespace Runs
variable {start last : Console Script} {lines : List String}

/-- Every line takes a key. -/
theorem length_le (runs : Runs start lines last) :
    lines.length ≤ (Input.keys start.stage.terminal.inputs).length := by
  induction runs with
  | ended read history inputs => exact Nat.zero_le _
  | stopped round => exact Nat.succ_le_of_lt (Nat.zero_lt_of_lt round.fewer)
  | wentOn round rest ih => exact Nat.succ_le_of_lt (Nat.lt_of_le_of_lt ih round.fewer)

/-- **The loop does what its run says**, if it may read as many keys and lines as there are. -/
theorem perform_run (runs : Runs start lines last) (keys budget : Nat)
    (enough : (Input.keys start.stage.terminal.inputs).length < keys)
    (rounds : lines.length < budget) :
    start.perform Script.terminal (run keys budget) = (.ok (some ()), last) := by
  obtain ⟨budget, rfl⟩ := Nat.exists_eq_add_one_of_ne_zero (Nat.ne_zero_of_lt rounds)
  induction runs generalizing budget with
  | ended read history inputs =>
    unfold run
    exact Console.perform_bind_of_ok (read keys enough)
  | stopped round =>
    unfold run
    refine (Console.perform_bind_of_ok (round.read keys enough)).trans ?_
    exact Console.perform_bind_of_ok round.makes.performed
  | wentOn round rest ih =>
    have later := Nat.lt_of_succ_lt_succ rounds
    obtain ⟨budget, rfl⟩ := Nat.exists_eq_add_one_of_ne_zero (Nat.ne_zero_of_lt later)
    unfold run
    refine (Console.perform_bind_of_ok (round.read keys enough)).trans ?_
    refine (Console.perform_bind_of_ok round.makes.performed).trans ?_
    exact ih (Nat.lt_trans round.fewer enough) budget later

/-- A run ends with the first line that names the command for that, and leaves the rest of the
script, or with the input. -/
theorem ends (runs : Runs start lines last) :
    (∃ earlier text, lines = earlier ++ [text] ∧ (∀ other ∈ earlier, ¬ Names other .exit) ∧
      Names text .exit ∧ last.stage.terminal.inputs =
        (Input.afterEnter start.editor.bindings)^[lines.length] start.stage.terminal.inputs) ∨
      ((∀ text ∈ lines, ¬ Names text .exit) ∧ last.stage.terminal.inputs = []) := by
  induction runs with
  | ended read history inputs => exact Or.inr ⟨List.forall_mem_nil _, inputs⟩
  | @stopped start entered last text calls round =>
    exact Or.inl ⟨[], text, rfl, List.forall_mem_nil _, round.replies.stop_iff.mp rfl, round.left⟩
  | @wentOn start entered next last text calls lines round rest ih =>
    have other : ¬ Names text .exit := fun exits => nomatch round.replies.stop_iff.mpr exits
    rcases ih with ⟨earlier, final, rfl, others, exits, left⟩ | ⟨others, drained⟩
    · refine Or.inl ⟨text :: earlier, final, rfl, List.forall_mem_cons.mpr ⟨other, others⟩, exits, ?_⟩
      rw [left, round.left, round.bindings_next, List.length_cons, Function.iterate_succ_apply]
    · exact Or.inr ⟨List.forall_mem_cons.mpr ⟨other, others⟩, drained⟩

/-- Over a run the history changes by the lines that were entered, and by the command that empties
it. -/
theorem remembers (runs : Runs start lines last) {history : History}
    (agrees : history.Agrees start.editor.history) :
    (lines.foldl (remembered start.editor.settings) history).Agrees last.editor.history := by
  induction runs generalizing history with
  | ended read kept inputs => exact agrees.trans kept
  | @stopped start entered last text calls round =>
    exact (agrees_remembered agrees _ text).trans round.remembers
  | @wentOn start entered next last text calls lines round rest ih =>
    rw [round.settings_next] at ih
    exact ih ((agrees_remembered agrees _ text).trans round.remembers)

/-- A run starts with the round of the line that is read first, and goes on or ends as the reply to
that line says. -/
theorem exists_cons (runs : Runs start lines last) (budget : Nat) (text : String)
    (enough : (Input.keys start.stage.terminal.inputs).length < budget)
    (read : (start.perform Script.terminal (Editing.readLine budget prompt)).1 =
      .ok (some (.line text))) :
    let next := (start.perform Script.terminal (do
      let _ ← Editing.readLine budget prompt
      process text)).2
    ∃ later entered calls flow, lines = text :: later ∧
      Round start text entered calls flow next ∧
      (flow = .goOn → Runs next later last) ∧ (flow = .stop → later = []) := by
  have entered {other : String} {console : Console Script}
      (reads : start.perform Script.terminal (Editing.readLine budget prompt) =
        (.ok (some (.line other)), console)) : other = text := by
    rw [reads] at read
    simpa using read
  cases runs with
  | ended reads history inputs =>
    rw [reads budget enough] at read
    simp at read
  | stopped round =>
    cases entered (round.read budget enough)
    rw [round.performed enough]
    exact ⟨[], _, _, _, rfl, round, nofun, fun _ => rfl⟩
  | wentOn round rest =>
    cases entered (round.read budget enough)
    rw [round.performed enough]
    exact ⟨_, _, _, _, rfl, round, fun _ => rest, nofun⟩

end Runs

/-- **The loop on a tame terminal.** It goes through rounds, in each of which a line is entered and
replied to as `Replies` says, by that line alone. It comes to its end if it may read more keys and
more lines than there are keys in the script: with the first line that names the command for that,
so that everything after the key that entered that line is left in the script, or with the input.
The entries of the history are those before, changed by each line that was entered, and emptied by
each line that names the command for that: after such a line there are only those that the lines
after it have left. -/
theorem run_rounds (start : Console Script) (tame : start.stage.terminal.Tame) :
    let inputs := start.stage.terminal.inputs
    ∃ lines last, Runs start lines last ∧
      (∀ keys budget, (Input.keys inputs).length < keys → (Input.keys inputs).length < budget →
        start.perform Script.terminal (run keys budget) = (.ok (some ()), last)) ∧
      ((∃ earlier text, lines = earlier ++ [text] ∧ (∀ other ∈ earlier, ¬ Names other .exit) ∧
          Names text .exit ∧ last.stage.terminal.inputs =
            (Input.afterEnter start.editor.bindings)^[lines.length] inputs) ∨
        ((∀ text ∈ lines, ¬ Names text .exit) ∧ last.stage.terminal.inputs = [])) ∧
      (lines.foldl (remembered start.editor.settings) start.editor.history).Agrees
        last.editor.history ∧
      ∀ earlier text later, lines = earlier ++ text :: later → Names text .clearHistory →
        last.editor.history.entries =
          (later.foldl (remembered start.editor.settings)
            { capacity := start.editor.history.capacity, entries := [] }).entries := by
  intro inputs
  obtain ⟨lines, last, runs⟩ := exists_runs start tame
  have remembers := runs.remembers (.refl _)
  refine ⟨lines, last, runs, ?_, runs.ends, remembers, ?_⟩
  · intro keys budget enough rounds
    exact runs.perform_run keys budget enough (Nat.lt_of_le_of_lt runs.length_le rounds)
  · rintro earlier text later rfl clears
    exact ((agrees_foldl_cleared _ _ clears earlier later).trans remembers).entries

/-- A line that is echoed, the command that empties the history, and the one that ends the loop with
more to read after it. Only the last line is left in the history. -/
theorem run_rounds_echo :
    let script : Script :=
      { inputs := Script.typing "hi" ++ .key (.ofCode .enter) ::
          Script.typing "clear-history" ++ .key (.ofCode .enter) ::
          Script.typing " EXIT" ++ [.key (.ofCode .enter), .key (.ofChar 'x')]
        width := 8 }
    let start : Console Script := { editor := .standard, stage := { terminal := script } }
    script.Tame ∧ ∃ entered next last,
      Round start "hi" entered [.writeLine "echo: hi", .flush] .goOn next ∧
      Runs start ["hi", "clear-history", " EXIT"] last ∧
      start.perform Script.terminal (run 30 30) = (.ok (some ()), last) ∧
      last.editor.history.entries = [" EXIT"] ∧
      last.stage.terminal.inputs = [.key (.ofChar 'x')] := by
  intro script start
  have tame : script.Tame := ⟨rfl, by decide, by simp [script, Script.typing, Input.IsTame]⟩
  obtain ⟨lines, last, runs, performs, ends, -, cleared⟩ := run_rounds start tame
  -- The rounds are taken from the run one by one, and the replies to them are known from the lines.
  obtain ⟨_, entered, _, _, rfl, first, goesOn, -⟩ :=
    runs.exists_cons 30 "hi" (by decide) (by decide +kernel)
  obtain ⟨rfl, rfl, -⟩ := first.replies.echoed ⟨'h', by simp, by decide⟩
    (fun command => by cases command <;> decide +kernel)
  obtain ⟨_, _, _, _, rfl, second, goesOn, -⟩ :=
    (goesOn rfl).exists_cons 30 "clear-history" (by decide +kernel) (by decide +kernel)
  obtain ⟨-, rfl, -⟩ := second.replies.obeyed (show Names _ .clearHistory by decide +kernel)
  obtain ⟨_, _, _, _, rfl, third, -, stops⟩ :=
    (goesOn rfl).exists_cons 30 " EXIT" (by decide +kernel) (by decide +kernel)
  obtain ⟨-, rfl, -⟩ := third.replies.obeyed (show Names _ .exit by decide +kernel)
  obtain rfl := stops rfl
  refine ⟨tame, entered, _, last, first, runs, performs 30 30 (by decide) (by decide), ?_, ?_⟩
  · rw [cleared ["hi"] "clear-history" [" EXIT"] rfl (by decide +kernel)]
    decide +kernel
  · rcases ends with ⟨-, -, -, -, -, left⟩ | ⟨unnamed, -⟩
    · rw [left]
      decide +kernel
    · exact absurd (by decide +kernel) (unnamed " EXIT" (by simp))

end Repl

end PromptLine
