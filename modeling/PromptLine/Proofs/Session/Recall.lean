import PromptLine.Proofs.History.Browsing
import PromptLine.Proofs.Session.Conclusion
import PromptLine.Proofs.Session.Passage

/-!
# What is recalled after a line was entered

When the text that is entered is not the entry being looked at, it is entered into the history, and
that ends browsing. So the first step back of a later session shows that text again, as long as
nothing else happens to the history. A text that is not entered into the history, an empty one where
empty lines are not kept, leaves the place in the history as it is, and the next session goes on from
there (`PromptLine.Console.readLine_browsing`).
-/

namespace PromptLine

namespace Editor

/-- Whether nobody is browsing, with these bindings and these entries. -/
structure Outside (bindings : Bindings) (entries : List String) (editor : Editor) : Prop where
  bindings_eq : editor.bindings = bindings
  entries_eq : editor.history.entries = entries
  browsing : editor.history.browsing = none

namespace Outside
variable {bindings : Bindings} {entries : List String} {before after editor : Editor} {key : Key}

/-- Painting does not start to browse. -/
theorem of_repaints (repaints : before.Repaints after) (outside : before.Outside bindings entries) :
    after.Outside bindings entries := by
  rw [repaints]
  exact ⟨outside.bindings_eq, outside.entries_eq, outside.browsing⟩

/-- Only a step back begins browsing. -/
theorem edited (outside : editor.Outside bindings entries) {action : Action}
    (other : action ≠ .historyPrevious) :
    (Editing.edited editor action).1.history.browsing = none := by
  have same (paint : Editing.Paint) (line? : Option Line) :
      (Editing.withLine? editor paint line?).1.history.browsing = none := by
    cases line? with
    | none => exact outside.browsing
    | some line => exact outside.browsing
  cases action with
  | historyPrevious => exact absurd rfl other
  | escape | home | toEnd | enter | tab => exact outside.browsing
  | moveLeft | moveRight | backspace | delete => exact same _ _
  | historyNext =>
    have stays : editor.history.next = (none, editor.history) := by
      unfold History.next
      rw [outside.browsing]
    simp only [Editing.edited, Editing.withEntry, stays]
    exact outside.browsing

/-- A key other than the one that goes back does not start to browse. -/
theorem handled (outside : editor.Outside bindings entries)
    (other : bindings.find? key ≠ some .historyPrevious) :
    (editor.handled key).1.Outside bindings entries where
  bindings_eq := (editor.bindings_handled key).trans outside.bindings_eq
  entries_eq := (editor.keepsHistory_handled key).history.entries.trans outside.entries_eq
  browsing := by
    unfold Editor.handled
    rw [outside.bindings_eq]
    cases bound : bindings.find? key with
    | some action =>
      have another : action ≠ .historyPrevious := fun same => other (bound.trans (congrArg some same))
      exact outside.edited another
    | none =>
      dsimp only
      split <;> exact outside.browsing

/-- The first step back goes to the newest entry. -/
theorem content_handled (outside : editor.Outside bindings entries)
    (bound : bindings.find? key = some .historyPrevious) {newest : String}
    (last : entries.getLast? = some newest) :
    (editor.handled key).1.line.content = newest := by
  have shown : editor.history.previous.1 = some newest := by
    rw [History.previous_of_not_browsing outside.browsing, outside.entries_eq, last]
  unfold Editor.handled
  rw [outside.bindings_eq, bound]
  simp only [Editing.edited, Editing.withEntry, shown]
  exact String.ofList_toList

end Outside

end Editor

/-- **The first step back** in a session that begins with this history shows the text, on every
terminal and whatever other keys come before it. -/
def History.Recalls (history : History) (text : String) : Prop :=
  ∀ {σ : Type} (device : Terminal σ) (prompt : String) (start console : Console σ)
    (keys : List Key) (key : Key), start.editor.history = history →
    (∀ earlier ∈ keys, start.editor.bindings.find? earlier ≠ some .historyPrevious) →
    start.editor.bindings.find? key = some .historyPrevious →
    Console.Attends device prompt start (keys ++ [key]) console →
    console.editor.line.content = text

/-- When nobody is browsing, the newest entry is recalled. -/
theorem History.recalls_of_getLast? {history : History} {newest : String}
    (outside : history.browsing = none) (last : history.entries.getLast? = some newest) :
    history.Recalls newest := by
  intro σ device prompt start console keys key same others bound attends
  obtain ⟨earlier, read, attended, heard, responded⟩ := attends.of_concat
  have before : earlier.editor.Outside start.editor.bindings history.entries := by
    refine attended.editor _ ⟨rfl, congrArg entries same, ?_⟩
      (fun _ _ => Editor.Outside.of_repaints)
      fun key member editor kept => kept.handled (others key member)
    exact (congrArg browsing same).trans outside
  have shown := before.content_handled bound last
  rw [← shown, Line.content, (Console.Attends.repaints_of_respond heard responded).line_eq]
  rfl

namespace Console

variable {σ : Type}

/-- **A session enters a text** from a state that it comes through. -/
structure Enters (device : Terminal σ) (prompt : String) (start : Console σ) (text : String)
    (last console : Console σ) : Prop where
  attends : ∃ keys, Attends device prompt start keys console
  finished : console.editor.line.finished
  commits : console.perform device Editing.commit = (.ok (.line text), last)

section Entering
variable {device : Terminal σ} {prompt text : String} {start last console : Console σ}

/-- A session that reads a line enters it. -/
theorem enters_of_readLine {budget : Nat} (read : start.perform device
      (Editing.readLine budget prompt) = (.ok (some (.line text)), last)) :
    ∃ console, Enters device prompt start text last console := by
  obtain ⟨incidents, stops⟩ := stops_session device start budget prompt
  rw [perform_readLine_eq_ok.mp read] at stops
  generalize outcome : (.ok (some (.line text)) : Except TerminalError (Option Reading)) = result
    at stops
  cases stops with
  | @entered _ console _ result unfolds finished commits =>
    cases result with
    | error failure => cases outcome
    | ok reading =>
      cases outcome
      exact ⟨console, unfolds.attends, finished, commits⟩
  | @ended _ _ read _ result unfolds goesOn heard abandons =>
    have reading := read.perform_of_ensures device (Editing.ensures_abandon read.editor)
    rw [abandons] at reading
    cases result with
    | error failure => cases outcome
    | ok reading' =>
      cases outcome
      cases reading.2.1 _ rfl
  | notBegun | waiting | notHeard | notFitted | notPainted => cases outcome

/-- What is entered is the text of the line, and it goes into the history of the editor. -/
theorem Enters.spec (enters : Enters device prompt start text last console) :
    console.editor.line.content = text ∧
      last.editor.history = console.editor.historyWith text := by
  have spec := console.perform_of_ensures device (Editing.ensures_commit console.editor)
  rw [enters.commits] at spec
  obtain ⟨reading, repaints, -⟩ := spec
  cases reading
  exact ⟨rfl, repaints.history_eq⟩

end Entering

/-- **Entering another text.** Suppose that a session begins with a history that can be reached from
a new one, reads a line, and comes to the commit while an entry is looked at that is not the text.
Then browsing ends, unless the text is empty and empty lines are not kept; and if it ends, the text
is the newest entry afterwards, and the first step back of a later session recalls it. -/
theorem readLine_browsing (device : Terminal σ) (start : Console σ) (capacity : Nat)
    (taken : List History.Step)
    (reached : start.editor.history = (History.empty capacity).steps taken)
    (budget : Nat) (prompt text : String) (last : Console σ)
    (read : start.perform device (Editing.readLine budget prompt) =
      (.ok (some (.line text)), last)) :
    (∃ console, Enters device prompt start text last console) ∧
      ∀ console, Enters device prompt start text last console → ∀ index entry,
        console.editor.history.browsing = some index →
        console.editor.history.entries[index]? = some entry → entry ≠ text →
        (last.editor.history.browsing = none ↔
          text ≠ "" ∨ start.editor.settings.keepsEmptyLines) ∧
        (last.editor.history.browsing = none →
          last.editor.history.entries.getLast? = some text ∧
          last.editor.history.Recalls text) := by
  refine ⟨enters_of_readLine read, ?_⟩
  intro console enters index entry browsed looked other
  obtain ⟨keys, attends⟩ := enters.attends
  have kept := attends.keepsHistory
  have history := enters.spec.2
  rw [Editor.historyWith, kept.settings] at history
  by_cases enters? : text ≠ "" ∨ start.editor.settings.keepsEmptyLines
  case neg =>
    rw [if_neg enters?] at history
    rw [history, browsed]
    simp only [reduceCtorEq, enters?, false_implies, and_true]
  case pos =>
    rw [if_pos enters?] at history
    have valid : start.editor.history.Valid :=
      reached ▸ (History.Valid.empty capacity).steps taken
    have room : console.editor.history.capacity ≠ 0 := by
      have inside := (List.getElem?_eq_some_iff.mp looked).1
      have bounded : start.editor.history.entries.length ≤ start.editor.history.capacity :=
        valid.bounded
      rw [kept.history.entries] at inside
      rw [kept.history.capacity]
      omega
    have outside : last.editor.history.browsing = none :=
      history ▸ History.browsing_add_of_ne browsed looked other
    have newest : last.editor.history.entries.getLast? = some text :=
      history ▸ History.getLast?_add room
    simp only [outside, enters?, true_implies]
    exact ⟨trivial, newest, History.recalls_of_getLast? outside newest⟩

/-- On a sound terminal, keys that come right after one another enter the line in the state for the
first key that does so. -/
theorem enters_of_pressed (start : Console Script) (prompt : String)
    (sound : start.stage.terminal.Sound) {keys : List Key} {key : Key} {rest : List Input}
    (script : start.stage.terminal.inputs = (keys ++ [key]).map .key ++ rest)
    (silent : ∀ earlier ∈ keys, start.editor.bindings.find? earlier ≠ some .enter)
    (bound : start.editor.bindings.find? key = some .enter) :
    let console := start.pressed prompt (keys ++ [key])
    let text := console.editor.line.content
    start.perform Script.terminal (Editing.readLine (keys.length + 1) prompt) =
        (.ok (some (.line text)), console.commits) ∧
      Enters Script.terminal prompt start text console.commits console := by
  intro console text
  have attends := (Attends.pressed prompt sound script).1
  obtain ⟨finished, read⟩ := attends.perform_readLine sound silent bound
  exact ⟨read, ⟨_, attends⟩, finished, perform_commit console (attends.sound sound).works⟩

/-- The newest of two entries is changed before it is entered. The oldest goes for it, and the next
step back recalls the changed one. -/
theorem readLine_browsing_changed :
    let script : Script :=
      { inputs := [.key (.ofCode .up), .key (.ofChar 'x'), .key (.ofCode .enter)], width := 10 }
    let editor : Editor :=
      { Editor.standard with
        history := (History.empty 2).steps [.add "a", .add "b"]
        settings := { keepsEmptyLines := false } }
    let start : Console Script := { editor, stage := { terminal := script } }
    ∃ console last, start.perform Script.terminal (Editing.readLine 3 "> ") =
        (.ok (some (.line "bx")), last) ∧
      Enters Script.terminal "> " start "bx" last console ∧
      console.editor.history.browsing = some 1 ∧
      console.editor.history.entries[1]? = some "b" ∧
      last.editor.history.browsing = none ∧ last.editor.history.Recalls "bx" := by
  intro script editor start
  have sound : script.Sound := ⟨rfl, by decide, by simp [script]⟩
  have silent : ∀ earlier ∈ [Key.ofCode .up, Key.ofChar 'x'],
      Bindings.standard.find? earlier ≠ some .enter := by decide
  have bound : Bindings.standard.find? (.ofCode .enter) = some .enter := by decide
  obtain ⟨read, enters⟩ := start.enters_of_pressed "> " sound rfl silent bound
  generalize state : start.pressed "> " _ = console at read enters
  have content : console.editor.line.content = "bx" := by rw [← state]; decide +kernel
  have browsed : console.editor.history.browsing = some 1 := by rw [← state]; decide +kernel
  have looked : console.editor.history.entries[1]? = some "b" := by rw [← state]; decide +kernel
  rw [content] at read enters
  obtain ⟨ends, recalls⟩ := (readLine_browsing Script.terminal start 2 [.add "a", .add "b"] rfl 3
    "> " "bx" _ read).2 console enters 1 "b" browsed looked (by decide)
  have outside := ends.mpr (Or.inl (by decide))
  exact ⟨console, _, read, enters, browsed, looked, outside, (recalls outside).2⟩

/-- The newest of two entries is looked at, and an empty line is entered, which is not kept. The
next session goes on from there: its first step back recalls the oldest entry. -/
theorem readLine_browsing_dropped :
    let script : Script :=
      { inputs := [.key (.ofCode .up), .key (.ofCode .escape), .key (.ofCode .enter),
          .key (.ofCode .up), .key (.ofCode .enter)]
        width := 10 }
    let editor : Editor :=
      { Editor.standard with
        history := (History.empty 2).steps [.add "a", .add "b"]
        settings := { keepsEmptyLines := false } }
    let start : Console Script := { editor, stage := { terminal := script } }
    ∃ console last, start.perform Script.terminal (Editing.readLine 3 "> ") =
        (.ok (some (.line "")), last) ∧
      Enters Script.terminal "> " start "" last console ∧
      console.editor.history.browsing = some 1 ∧
      console.editor.history.entries[1]? = some "b" ∧
      last.editor.history.browsing = some 1 ∧
      last.editor.history.entries.getLast? = some "b" ∧
      (last.perform Script.terminal (Editing.readLine 2 "> ")).1 = .ok (some (.line "a")) := by
  intro script editor start
  have sound : script.Sound := ⟨rfl, by decide, by simp [script]⟩
  have silent : ∀ earlier ∈ [Key.ofCode .up, Key.ofCode .escape],
      Bindings.standard.find? earlier ≠ some .enter := by decide
  have bound : Bindings.standard.find? (.ofCode .enter) = some .enter := by decide
  obtain ⟨read, enters⟩ := start.enters_of_pressed "> " sound rfl silent bound
  generalize state : start.pressed "> " _ = console at read enters
  have content : console.editor.line.content = "" := by rw [← state]; decide +kernel
  rw [content] at read enters
  refine ⟨console, _, read, enters, ?_⟩
  rw [← state]
  decide +kernel

end Console

end PromptLine
