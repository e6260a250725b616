import PromptLine.Proofs.Script.Session
import PromptLine.Proofs.Session.Draft

/-!
# How a session ends

On a tame terminal the end of a session is that of the reference editor: the keys before the first
one that enters the line are pressed on an empty draft, and the text of the draft is the line
(`PromptLine.Console.ends_readLine`). So it depends on the keys alone, and neither the width of the
terminal nor the prompt matters.

The keys of a script are handled in its order. A change of the width between two keys is the same as
another width from the start, since the width is looked at only after a key was read.
-/

namespace PromptLine

/-- Whether a key enters the line. -/
def Bindings.enters (bindings : Bindings) (key : Key) : Bool := bindings.find? key == some .enter

/-- A key enters the line just if it is bound to that. -/
theorem Bindings.enters_iff {bindings : Bindings} {key : Key} :
    bindings.enters key ↔ bindings.find? key = some .enter :=
  beq_iff_eq

namespace Input

/-- Whether an input is a key that enters the line. -/
def enters (bindings : Bindings) (input : Input) : Bool := input.key?.any bindings.enters

/-- The inputs after the first key that enters the line. -/
def afterEnter (bindings : Bindings) (inputs : List Input) : List Input :=
  (inputs.dropWhile fun input => !input.enters bindings).tail

/-- The key that enters the line is the last one that is taken. -/
theorem afterEnter_of_enters {bindings : Bindings} {key : Key} (enters : bindings.enters key)
    (rest : List Input) : afterEnter bindings (.key key :: rest) = rest := by
  simp [afterEnter, Input.enters, key?, enters]

/-- A key that does not enter the line is taken, and others may be. -/
theorem afterEnter_of_not_enters {bindings : Bindings} {key : Key} (goesOn : ¬ bindings.enters key)
    (rest : List Input) :
    afterEnter bindings (.key key :: rest) = afterEnter bindings rest := by
  simp [afterEnter, Input.enters, key?, goesOn]

/-- Inputs that do not enter the line are passed over. -/
theorem afterEnter_append {bindings : Bindings} {inputs : List Input}
    (goesOn : ∀ key ∈ keys inputs, ¬ bindings.enters key) (rest : List Input) :
    afterEnter bindings (inputs ++ rest) = afterEnter bindings rest := by
  induction inputs with
  | nil => rfl
  | cons input inputs ih =>
    cases input with
    | key pressed =>
      obtain ⟨first, others⟩ := List.forall_mem_cons.mp goesOn
      exact (afterEnter_of_not_enters first _).trans (ih others)
    | resize width => exact ih goesOn
    | fail kind => exact ih goesOn

/-- Without a key that enters the line, nothing is left. -/
theorem afterEnter_of_forall {bindings : Bindings} {inputs : List Input}
    (goesOn : ∀ key ∈ keys inputs, ¬ bindings.enters key) : afterEnter bindings inputs = [] := by
  have nothing := afterEnter_append goesOn []
  rwa [List.append_nil] at nothing

end Input

/-- **How a session ends**, as far as the screen does not matter: the outcome, the history and the
text of the line, with the cursor behind it. -/
structure Ending where
  reading : Reading
  history : History
  text : List Char

namespace Editor

/-- The end of a session that goes on from a draft, on these keys. -/
def endingFrom (editor : Editor) (draft : Draft) (keys : List Key) : Ending :=
  let typed := keys.takeWhile fun key => !editor.bindings.enters key
  let last := typed.foldl editor.rules.press draft
  let text := String.ofList last.text
  let browsed := { editor.history with browsing := last.browsing }
  if keys.any editor.bindings.enters then
    { reading := .line text
      history := if text ≠ "" ∨ editor.settings.keepsEmptyLines then browsed.add text else browsed
      text := last.text }
  else { reading := .endOfInput, history := browsed, text := [] }

/-- **The end of a session** of the reference editor on these keys. -/
def ending (editor : Editor) (keys : List Key) : Ending :=
  editor.endingFrom { browsing := editor.history.browsing } keys

end Editor

/-- A session ended like this, and left so much of the script. -/
structure Console.Ends (ending : Ending) (rest : List Input)
    (outcome : Except TerminalError (Option Reading) × Console Script) : Prop where
  reading : outcome.1 = .ok (some ending.reading)
  history : outcome.2.editor.history = ending.history
  text : outcome.2.editor.line.text = ending.text
  cursor : outcome.2.editor.line.cursor = ending.text.length
  inputs : outcome.2.stage.terminal.inputs = rest

namespace Editor

/-- What the end depends on. -/
theorem endingFrom_eq {first second : Editor} (kept : first.KeepsHistory second)
    (bindings : second.bindings = first.bindings) (draft : Draft) (keys : List Key) :
    second.endingFrom draft keys = first.endingFrom draft keys := by
  have rules : second.rules = first.rules := by
    unfold Editor.rules
    rw [bindings, kept.history.entries, kept.settings]
  have history (place : Option Nat) : { second.history with browsing := place } =
      { first.history with browsing := place } := by
    change History.mk second.history.capacity second.history.entries place = _
    rw [kept.history.entries, kept.history.capacity]
  unfold endingFrom
  rw [bindings, rules, kept.settings]
  simp only [history]

theorem endingFrom_nil (editor : Editor) (draft : Draft) :
    editor.endingFrom draft [] =
      { reading := .endOfInput, text := []
        history := { editor.history with browsing := draft.browsing } } := rfl

/-- The key that enters the line ends the session with the draft. -/
theorem endingFrom_of_enters {editor : Editor} {key : Key} (enters : editor.bindings.enters key)
    (draft : Draft) (keys : List Key) :
    editor.endingFrom draft (key :: keys) =
      let text := String.ofList draft.text
      let browsed := { editor.history with browsing := draft.browsing }
      { reading := .line text
        history := if text ≠ "" ∨ editor.settings.keepsEmptyLines then browsed.add text else browsed
        text := draft.text } := by
  simp [endingFrom, enters]

/-- A key that does not enter the line changes the draft, and the session goes on. -/
theorem endingFrom_of_not_enters {editor : Editor} {key : Key}
    (goesOn : ¬ editor.bindings.enters key) (draft : Draft) (keys : List Key) :
    editor.endingFrom draft (key :: keys) =
      editor.endingFrom (editor.rules.press draft key) keys := by
  simp [endingFrom, goesOn]

/-- Keys that do not enter the line are pressed on the draft. -/
theorem endingFrom_append {editor : Editor} {typed : List Key}
    (goesOn : ∀ key ∈ typed, ¬ editor.bindings.enters key) (draft : Draft) (keys : List Key) :
    editor.endingFrom draft (typed ++ keys) =
      editor.endingFrom (typed.foldl editor.rules.press draft) keys := by
  induction typed generalizing draft with
  | nil => rfl
  | cons key typed ih =>
    obtain ⟨first, others⟩ := List.forall_mem_cons.mp goesOn
    exact (endingFrom_of_not_enters first draft _).trans (ih others _)

/-- Keys none of which enters the line end with the input. -/
theorem ending_of_forall {editor : Editor} {keys : List Key}
    (goesOn : ∀ key ∈ keys, ¬ editor.bindings.enters key) :
    (editor.ending keys).reading = .endOfInput := by
  unfold ending
  rw [← List.append_nil keys, endingFrom_append goesOn, endingFrom_nil]

/-- The first key that enters the line enters what was typed until then. -/
theorem ending_of_enters {editor : Editor} {typed later : List Key} {key : Key}
    (goesOn : ∀ other ∈ typed, ¬ editor.bindings.enters other) (enters : editor.bindings.enters key) :
    (editor.ending (typed ++ key :: later)).reading = .line (String.ofList
      (typed.foldl editor.rules.press { browsing := editor.history.browsing }).text) := by
  unfold ending
  rw [endingFrom_append goesOn, endingFrom_of_enters enters]

/-- The line is entered just if some key enters it. -/
theorem ending_reading_iff (editor : Editor) (keys : List Key) :
    (∃ text, (editor.ending keys).reading = .line text) ↔
      ∃ key ∈ keys, editor.bindings.enters key := by
  unfold ending endingFrom
  by_cases enters : keys.any editor.bindings.enters
  · simp only [enters, ↓reduceIte]
    exact ⟨fun _ => List.any_eq_true.mp enters, fun _ => ⟨_, rfl⟩⟩
  · simp only [enters]
    constructor
    · rintro ⟨text, entered⟩
      cases entered
    · exact fun entered => absurd (List.any_eq_true.mpr entered) enters

/-- The end depends on the history, the bindings, the settings and the keys. -/
theorem ending_congr {first second : Editor} (history : second.history = first.history)
    (bindings : second.bindings = first.bindings) (settings : second.settings = first.settings)
    (keys : List Key) : second.ending keys = first.ending keys := by
  have kept : first.KeepsHistory second := ⟨history ▸ .refl _, settings⟩
  unfold ending
  rw [history]
  exact endingFrom_eq kept bindings _ keys

end Editor

namespace Console

/-- The console with this script and this width. -/
def withScript (inputs : List Input) (width : UInt16) (console : Console Script) :
    Console Script :=
  { console with stage :=
    { console.stage with terminal := { console.stage.terminal with inputs, width } } }

/-- A change of the width before a read is the same as another width all along. -/
theorem perform_handleKeys_resize (console : Console Script) (budget : Nat)
    (goesOn : ¬ console.editor.line.finished) {width : UInt16} {rest : List Input}
    (inputs : console.stage.terminal.inputs = .resize width :: rest) :
    console.perform Script.terminal (Editing.handleKeys (budget + 1)) =
      (console.withScript rest width).perform Script.terminal
        (Editing.handleKeys (budget + 1)) := by
  rw [perform_handleKeys_succ console budget goesOn]
  rw [perform_handleKeys_succ (console.withScript rest width) budget goesOn]
  have reads : console.reads = (console.withScript rest width).reads := by
    unfold reads withScript Script.afterRead
    rw [inputs]
    rfl
  rw [reads, inputs]
  rfl

/-- A line that is entered is the text of the draft. -/
theorem ends_commits (console : Console Script) {draft : Draft}
    (holds : console.editor.Holds draft) :
    let text := String.ofList draft.text
    let browsed := { console.editor.history with browsing := draft.browsing }
    Ends
      { reading := .line text
        history := if text ≠ "" ∨ console.editor.settings.keepsEmptyLines then browsed.add text
          else browsed
        text := draft.text }
      console.stage.terminal.inputs
      (.ok (some (.line console.editor.line.content)), console.commits) := by
  have content : console.editor.line.content = String.ofList draft.text :=
    congrArg String.ofList holds.line.text
  have place : { console.editor.history with browsing := draft.browsing } =
      console.editor.history := by
    rw [← holds.browsing]
  dsimp only
  rw [place, ← content]
  constructor
  · rfl
  · rw [commits_editor]
  · rw [commits_editor]
    exact holds.line.text
  · rw [commits_editor]
    exact congrArg List.length holds.line.text
  · exact console.shows_commits.inputs_eq

/-- The input ended, and the draft is dropped. -/
theorem ends_abandons (console : Console Script) {draft : Draft}
    (holds : console.editor.Holds draft) :
    Ends
      { reading := .endOfInput, text := []
        history := { console.editor.history with browsing := draft.browsing } }
      console.stage.terminal.inputs (.ok (some .endOfInput), console.abandons) where
  reading := rfl
  history := by
    rw [← holds.browsing]
    rfl
  text := rfl
  cursor := rfl
  inputs := console.shows_abandons.inputs_eq

/-- A key of the script is handled, and the session goes on with the rest of the script. -/
theorem perform_handleKeys_key (console : Console Script) (budget : Nat) {key : Key}
    {rest : List Input} (script : console.stage.terminal.inputs = .key key :: rest)
    (tame : console.stage.terminal.Tame) (goesOn : ¬ console.editor.line.finished) :
    ∃ next : Console Script,
      console.perform Script.terminal (Editing.handleKeys (budget + 1)) =
        next.perform Script.terminal (Editing.handleKeys budget) ∧
      next.stage.terminal.inputs = rest ∧ next.stage.terminal.Tame ∧
      (console.editor.handled key).1.Repaints next.editor := by
  have read : console.reads.stage.terminal =
      { console.stage.terminal with
        inputs := rest, intercepts := console.stage.terminal.intercepts.push true } := by
    unfold reads Script.afterRead
    rw [script]
    rfl
  have tameRest : ∀ later ∈ rest, later.IsTame := fun later member =>
    tame.inputs later (script ▸ List.mem_cons_of_mem _ member)
  have tameRead : console.reads.stage.terminal.Tame := by
    rw [read]
    exact ⟨tame.works, tame.columns, tameRest⟩
  have shows := console.reads.shows_responds key
  refine ⟨console.reads.responds key, ?_, ?_, shows.tame tameRead, ?_⟩
  · rw [perform_handleKeys_succ console budget goesOn, script]
    exact perform_bind_of_ok (perform_respond _ tameRead.works tameRead.columns key)
  · rw [shows.inputs_eq, read]
  · exact console.reads.repaints_responds key

/-- **The keys of a session** on a tame terminal bring it to the end of the reference editor. -/
theorem ends_handleKeys (inputs : List Input) (console : Console Script) (draft : Draft)
    (budget : Nat) (script : console.stage.terminal.inputs = inputs)
    (tame : console.stage.terminal.Tame) (holds : console.editor.Holds draft)
    (goesOn : ¬ console.editor.line.finished) (enough : (Input.keys inputs).length < budget) :
    Ends (console.editor.endingFrom draft (Input.keys inputs))
      (Input.afterEnter console.editor.bindings inputs)
      (console.perform Script.terminal (Editing.handleKeys budget)) := by
  -- The induction is on what is left of the script; the draft carries what was typed so far.
  induction inputs generalizing console draft budget with
  | nil =>
    obtain ⟨budget, rfl⟩ := Nat.exists_eq_add_one_of_ne_zero (Nat.ne_zero_of_lt enough)
    have drained : console.reads.stage.terminal.inputs = [] := by
      unfold reads Script.afterRead
      rw [script]
      rfl
    have ends := console.reads.ends_abandons holds
    rw [drained] at ends
    rw [perform_handleKeys_succ console budget goesOn, script]
    change Ends _ _ (console.reads.perform Script.terminal (some <$> Editing.abandon))
    rw [perform_map, perform_abandon console.reads tame.works]
    exact ends
  | cons input rest ih =>
    obtain ⟨budget, rfl⟩ := Nat.exists_eq_add_one_of_ne_zero (Nat.ne_zero_of_lt enough)
    have tameInput := tame.inputs input (script ▸ List.mem_cons_self)
    cases input with
    | fail kind => exact tameInput.elim
    | resize width =>
      have tameRest : ∀ later ∈ rest, later.IsTame := fun later member =>
        tame.inputs later (script ▸ List.mem_cons_of_mem _ member)
      -- A change of the width is passed over in the same read, so no key of the budget is used up.
      rw [perform_handleKeys_resize console budget goesOn script]
      exact ih (console.withScript rest width) draft (budget + 1) rfl
        ⟨tame.works, tameInput, tameRest⟩ holds goesOn enough
    | key key =>
      obtain ⟨next, performed, left, tameNext, repaints⟩ :=
        console.perform_handleKeys_key budget script tame goesOn
      have pressed : next.editor.Holds (console.editor.rules.press draft key) :=
        (holds.handled key).of_repaints repaints
      have kept : console.editor.KeepsHistory next.editor :=
        trans_of Editor.KeepsHistory (console.editor.keepsHistory_handled key) repaints.keepsHistory
      have bindings : next.editor.bindings = console.editor.bindings :=
        repaints.bindings_eq.trans (console.editor.bindings_handled key)
      rw [performed, Input.keys_key, ← Editor.endingFrom_eq kept bindings]
      by_cases enters : console.editor.bindings.enters key
      · have bound : console.editor.bindings.find? key = some .enter := Bindings.enters_iff.mp enters
        -- The key that enters the line is handled like any other, but the line is finished after it.
        have same : console.editor.rules.press draft key = draft := by
          unfold Rules.press Editor.rules
          rw [bound]
          rfl
        have finished : next.editor.line.finished := by
          rw [repaints.line_eq, Editor.handled_of_enter bound]
          rfl
        rw [perform_handleKeys_of_finished next budget tameNext.works finished]
        rw [Editor.endingFrom_of_enters (bindings ▸ enters), Input.afterEnter_of_enters enters]
        rw [same] at pressed
        exact left ▸ next.ends_commits pressed
      · have open? : ¬ next.editor.line.finished := by
          have other : console.editor.bindings.find? key ≠ some .enter := fun bound =>
            enters (Bindings.enters_iff.mpr bound)
          rw [repaints.line_eq, (console.editor.rewrites_handled other).finished_eq]
          exact goesOn
        have fewer : (Input.keys rest).length < budget := Nat.lt_of_succ_lt_succ enough
        have ends := ih next (console.editor.rules.press draft key) budget left tameNext pressed
          open? fewer
        rw [Editor.endingFrom_of_not_enters (bindings ▸ enters), repaints.rules_eq,
          Editor.rules_handled, Input.afterEnter_of_not_enters enters, ← bindings]
        exact ends

/-- A session on a tame terminal ends as that of the reference editor does. -/
theorem ends_readLine (console : Console Script) (budget : Nat) (prompt : String)
    (tame : console.stage.terminal.Tame)
    (enough : (Input.keys console.stage.terminal.inputs).length < budget) :
    Ends (console.editor.ending (Input.keys console.stage.terminal.inputs))
      (Input.afterEnter console.editor.bindings console.stage.terminal.inputs)
      (console.perform Script.terminal (Editing.readLine budget prompt)) := by
  have shows := console.shows_begins prompt
  have repaints := console.repaints_begins prompt
  have begun := perform_begin console tame.works tame.columns prompt
  generalize console.begins prompt = next at shows repaints begun
  have kept : console.editor.KeepsHistory next.editor :=
    ⟨repaints.history_eq ▸ .refl _, repaints.settings_eq⟩
  have started : Editor.Holds { console.editor with line := Line.start prompt }
      { browsing := console.editor.history.browsing } := ⟨Line.cut_start prompt, rfl⟩
  have holds := started.of_repaints repaints
  have goesOn : ¬ next.editor.line.finished := by
    rw [repaints.line_eq]
    exact Bool.false_ne_true
  have ends := ends_handleKeys _ next _ budget shows.inputs_eq (shows.tame tame) holds goesOn enough
  rw [Editor.endingFrom_eq kept repaints.bindings_eq, repaints.bindings_eq] at ends
  unfold Editing.readLine
  rw [perform_tryCatch, perform_bind_of_ok begun]
  generalize next.perform Script.terminal (Editing.handleKeys budget) = outcome at ends
  obtain ⟨failure | reading, last⟩ := outcome
  · cases ends.reading
  · exact ends

/-- **A session does not depend on the screen.** On a tame terminal whose script has fewer keys than
may be read, a session ends as that of the reference editor. The line is entered just if some key of
the script is bound to that. The first such key is the last input that is taken, and the line is
what the keys before it make of an empty draft; without such a key everything is taken, and the
input ends. So another session with the same keys, history, bindings and settings ends alike,
whatever the prompt, the widths and the rows. -/
theorem readLine_reference (console : Console Script) (budget : Nat) (prompt : String)
    (tame : console.stage.terminal.Tame)
    (enough : (Input.keys console.stage.terminal.inputs).length < budget) :
    let inputs := console.stage.terminal.inputs
    let bindings := console.editor.bindings
    let draft : Draft := { browsing := console.editor.history.browsing }
    let run := console.perform Script.terminal (Editing.readLine budget prompt)
    Ends (console.editor.ending (Input.keys inputs)) (Input.afterEnter bindings inputs) run ∧
    ((∃ text, run.1 = .ok (some (.line text))) ↔
      ∃ key, .key key ∈ inputs ∧ bindings.find? key = some .enter) ∧
    (∀ before key rest, inputs = before ++ .key key :: rest → bindings.find? key = some .enter →
      (∀ other, .key other ∈ before → bindings.find? other ≠ some .enter) →
      run.1 = .ok (some (.line (String.ofList
        ((Input.keys before).foldl console.editor.rules.press draft).text))) ∧
      run.2.stage.terminal.inputs = rest) ∧
    ((∀ key, .key key ∈ inputs → bindings.find? key ≠ some .enter) →
      run.1 = .ok (some .endOfInput) ∧ run.2.stage.terminal.inputs = []) ∧
    ∀ (other : Console Script) (otherBudget : Nat) (otherPrompt : String),
      other.stage.terminal.Tame →
      Input.keys other.stage.terminal.inputs = Input.keys inputs →
      (Input.keys other.stage.terminal.inputs).length < otherBudget →
      other.editor.history = console.editor.history → other.editor.bindings = bindings →
      other.editor.settings = console.editor.settings →
      let otherRun := other.perform Script.terminal (Editing.readLine otherBudget otherPrompt)
      otherRun.1 = run.1 ∧ otherRun.2.editor.history = run.2.editor.history ∧
      otherRun.2.editor.line.text = run.2.editor.line.text ∧
      otherRun.2.editor.line.cursor = run.2.editor.line.cursor := by
  intro inputs bindings draft run
  have ends : Ends (console.editor.ending (Input.keys inputs))
      (Input.afterEnter bindings inputs) run :=
    console.ends_readLine budget prompt tame enough
  refine ⟨ends, ?entered, ?line, ?ended, ?other⟩
  case entered =>
    rw [ends.reading]
    constructor
    · rintro ⟨text, entered⟩
      have line : (console.editor.ending (Input.keys inputs)).reading = .line text := by
        injection entered with entered
        injection entered
      obtain ⟨key, member, enters⟩ := (console.editor.ending_reading_iff _).mp ⟨text, line⟩
      exact ⟨key, Input.mem_keys.mp member, Bindings.enters_iff.mp enters⟩
    · rintro ⟨key, member, bound⟩
      obtain ⟨text, line⟩ := (console.editor.ending_reading_iff _).mpr
        ⟨key, Input.mem_keys.mpr member, Bindings.enters_iff.mpr bound⟩
      exact ⟨text, by rw [line]⟩
  case line =>
    intro before key rest split bound silent
    have enters : bindings.enters key := Bindings.enters_iff.mpr bound
    have goesOn : ∀ other ∈ Input.keys before, ¬ bindings.enters other := fun other member entered =>
      silent other (Input.mem_keys.mp member) (Bindings.enters_iff.mp entered)
    have keys : Input.keys inputs = Input.keys before ++ key :: Input.keys rest := by
      rw [split, Input.keys_append, Input.keys_key]
    have left : Input.afterEnter bindings inputs = rest := by
      rw [split, Input.afterEnter_append goesOn, Input.afterEnter_of_enters enters]
    constructor
    · rw [ends.reading, keys, Editor.ending_of_enters goesOn enters]
    · rw [ends.inputs, left]
  case ended =>
    intro silent
    have goesOn : ∀ key ∈ Input.keys inputs, ¬ bindings.enters key := fun key member entered =>
      silent key (Input.mem_keys.mp member) (Bindings.enters_iff.mp entered)
    constructor
    · rw [ends.reading, Editor.ending_of_forall goesOn]
    · rw [ends.inputs, Input.afterEnter_of_forall goesOn]
  case other =>
    intro other otherBudget otherPrompt otherTame keys otherEnough history same settings otherRun
    have otherEnds : Ends (other.editor.ending (Input.keys other.stage.terminal.inputs))
        (Input.afterEnter other.editor.bindings other.stage.terminal.inputs) otherRun :=
      other.ends_readLine otherBudget otherPrompt otherTame otherEnough
    rw [keys, Editor.ending_congr history same settings] at otherEnds
    exact ⟨otherEnds.reading.trans ends.reading.symm, otherEnds.history.trans ends.history.symm,
      otherEnds.text.trans ends.text.symm, otherEnds.cursor.trans ends.cursor.symm⟩

/-- A script that narrows the terminal between two keys and goes on after the line. -/
theorem readLine_reference_resized :
    let entered : List Input := [.key (.ofChar 'h'), .resize 2, .key (.ofChar 'i')]
    let script : Script :=
      { inputs := entered ++ [.key (.ofCode .enter), .key (.ofChar 'x')], width := 80 }
    let console : Console Script := { editor := .standard, stage := { terminal := script } }
    script.Tame ∧
      (console.perform Script.terminal (Editing.readLine 5 "> ")).1 = .ok (some (.line "hi")) ∧
      (console.perform Script.terminal (Editing.readLine 5 "> ")).2.stage.terminal.inputs =
        [.key (.ofChar 'x')] := by
  intro entered script console
  have tame : script.Tame := ⟨rfl, by decide, by simp [script, entered, Input.IsTame]⟩
  obtain ⟨-, -, line, -⟩ := readLine_reference console 5 "> " tame (by decide)
  have silent : ∀ other, .key other ∈ entered → Bindings.standard.find? other ≠ some .enter := by
    intro other member
    simp only [entered, List.mem_cons, Input.key.injEq, reduceCtorEq, List.not_mem_nil, or_false,
      false_or] at member
    rcases member with rfl | rfl <;> decide
  have typed := line entered (.ofCode .enter) [.key (.ofChar 'x')] rfl (by decide) silent
  have pressed : (Input.keys entered).foldl Editor.standard.rules.press
      { browsing := Editor.standard.history.browsing } =
      ({ before := ['h', 'i'] } : Draft) := by decide
  have text : String.ofList (Halves.text { before := ['h', 'i'] }) = "hi" := by decide
  rw [pressed, text] at typed
  exact ⟨tame, typed⟩

end Console

end PromptLine
