import Mathlib.Data.List.Basic
import PromptLine.Proofs.Editor.Contents
import PromptLine.Proofs.Editor.Keeping
import PromptLine.Terminal.Faulty
import PromptLine.Terminal.Scripted

/-!
# Control characters

No control character ever enters a line (`PromptLine.Session.isPrintable_held`), whatever the keys
are bound to, whichever characters the keys stand for, and however the sessions end: not in any
state of a session, not in a line that is entered, not in the history, and not in what is painted
after the prompt.

The line takes characters from the history, and the history takes lines, so both are free of control
characters only together (`PromptLine.Editor.IsPrintable`).
-/

namespace PromptLine

/-- No control characters. -/
def Printable (text : List Char) : Prop := ∀ c ∈ text, Key.firstPrintable ≤ c

instance (text : List Char) : Decidable (Printable text) :=
  List.decidableBAll (fun c => Key.firstPrintable ≤ c) text

/-- Two printable texts in a row are printable. -/
theorem Printable.append {first second : List Char} (one : Printable first)
    (two : Printable second) : Printable (first ++ second) :=
  List.forall_mem_append.mpr ⟨one, two⟩

/-- Spaces are printable. -/
theorem printable_replicate_space (count : Nat) : Printable (List.replicate count ' ') :=
  fun _ member => (List.eq_of_mem_replicate member).symm ▸ Char.le_refl _

namespace Editor

/-- **No control characters**, neither in the line nor in what the history may show. -/
structure IsPrintable (editor : Editor) : Prop where
  text : Printable editor.line.text
  entries : ∀ entry ∈ editor.history.entries, Printable entry.toList

/-- A key leaves nothing that cannot be printed. -/
theorem IsPrintable.handled {editor : Editor} (printable : editor.IsPrintable) (key : Key) :
    (editor.handled key).1.IsPrintable where
  text := forall_handled printable.text printable.entries (Char.le_refl _) fun typed =>
    of_decide_eq_true typed
  entries := (editor.keepsHistory_handled key).history.entries ▸ printable.entries

/-- The text of the line may be entered into the history. -/
theorem IsPrintable.enters {editor : Editor} (printable : editor.IsPrintable) :
    { editor with history := editor.history.add editor.line.content }.IsPrintable where
  text := printable.text
  entries := by
    intro entry member
    rcases History.mem_entries_add member with old | rfl
    · exact printable.entries entry old
    · rw [Line.content, String.toList_ofList]
      exact printable.text

end Editor

namespace Editing

/-- A line without control characters, after the prompt of the session. -/
structure PrintableAfter (prompt : String) (editor : Editor) : Prop
    extends editor.IsPrintable where
  prompt_eq : editor.line.prompt = prompt

/-- What is written is the prompt, and then no control characters. -/
def WritesPrintable (prompt : String) : Moment → Prop
  | .answered exchange => ∀ text, exchange.call = .write text →
      ∃ added, text = prompt ++ String.ofList added ∧ Printable added
  | .noted _ => True

/-- **The prompt is followed by printable text only**, in what is kept and in what is written. -/
theorem upholds_printable (prompt : String) :
    Upholds (PrintableAfter prompt) (WritesPrintable prompt) where
  width _ := nofun
  cursorRow _ := nofun
  flush _ := nofun
  moves _ _ := nofun
  writes editor padding _ keeps := by
    intro text written
    cases written
    refine ⟨editor.line.text ++ List.replicate padding ' ', ?_, ?_⟩
    · rw [paintedText, keeps.prompt_eq]
    · exact keeps.text.append (printable_replicate_space padding)
  repaints before after repaints keeps := by
    rw [repaints]
    exact ⟨⟨keeps.text, keeps.entries⟩, keeps.prompt_eq⟩
  notes _ := trivial
  handled editor key keeps :=
    ⟨keeps.toIsPrintable.handled key, (editor.prompt_handled key).trans keeps.prompt_eq⟩
  reads _ := nofun
  breaks _ := nofun
  toEnd _ keeps := ⟨⟨keeps.text, keeps.entries⟩, keeps.prompt_eq⟩
  clears _ keeps := ⟨⟨List.forall_mem_nil _, keeps.entries⟩, keeps.prompt_eq⟩
  enters _ keeps := ⟨keeps.toIsPrintable.enters, keeps.prompt_eq⟩

end Editing

/-- A terminal that breaks down after so many more calls. -/
def Terminal.breaking {σ : Type} (device : Terminal σ) : Terminal (Nat × σ) where
  answer
    | _, (0, terminal) => { reply := .error (.io .brokenPipe), terminal := (0, terminal) }
    | call, (calls + 1, terminal) =>
      let answer := device.answer call terminal
      { reply := answer.reply, terminal := (calls, answer.terminal), events := answer.events }

/-- **A session that is to be held**: on which terminal, after which prompt, and with how many
keys. -/
structure Session where
  State : Type
  device : Terminal State
  stage : Stage State
  prompt : String
  keys : Nat

namespace Session

/-- What a session does. -/
def operation (session : Session) : Editing (Option Reading) :=
  Editing.readLine session.keys session.prompt

/-- Where a session starts. -/
def console (editor : Editor) (session : Session) : Console session.State :=
  { editor, stage := session.stage }

/-- What a session comes to. -/
def held (editor : Editor) (session : Session) :
    Except TerminalError (Option Reading) × Console session.State :=
  (session.console editor).perform session.device session.operation

/-- The editor that sessions leave one after the other, whatever each of them came to. -/
def heldAll (editor : Editor) (sessions : List Session) : Editor :=
  sessions.foldl (fun editor session => (session.held editor).2.editor) editor

/-- **The states of a session.** What was changed before a failure stays changed, so the editor in
the middle of a session, when so many calls were made, is the one that the session leaves if the
terminal breaks down then. -/
def editorAfter (calls : Nat) (editor : Editor) (session : Session) : Editor :=
  let stage : Stage (Nat × session.State) :=
    { terminal := (calls, session.stage.terminal), events := session.stage.events }
  (Console.perform session.device.breaking session.operation { editor, stage }).2.editor

/-- On every terminal a session keeps the editor free of control characters, and writes none. -/
theorem keepsTo_operation (session : Session) {editor : Editor}
    (entries : ∀ entry ∈ editor.history.entries, Printable entry.toList) :
    Editing.KeepsTo (Editing.PrintableAfter session.prompt)
      (Editing.WritesPrintable session.prompt) session.operation editor :=
  (Editing.upholds_printable session.prompt).readLine ⟨⟨List.forall_mem_nil _, entries⟩, rfl⟩ _

/-- The entries that sessions leave are printable if those before are. -/
theorem entries_heldAll {editor : Editor}
    (entries : ∀ entry ∈ editor.history.entries, Printable entry.toList)
    (sessions : List Session) :
    ∀ entry ∈ (heldAll editor sessions).history.entries, Printable entry.toList := by
  induction sessions generalizing editor with
  | nil => exact entries
  | cons session sessions ih =>
    have kept := (session.console editor).perform_of_ensures session.device
      (session.keepsTo_operation entries)
    exact ih kept.1.entries

/-- **No control character enters a line.** If there are none in the history at first, then after
sessions on any terminals, whatever they came to, there are none in any state of a further session,
neither in the line nor in the history, and none in the line that it enters. What it writes is its
prompt and no control characters after that. -/
theorem isPrintable_held (editor : Editor)
    (entries : ∀ entry ∈ editor.history.entries, Printable entry.toList)
    (earlier : List Session) (session : Session) :
    let start := heldAll editor earlier
    (∀ calls, (session.editorAfter calls start).IsPrintable) ∧
      (session.held start).2.editor.IsPrintable ∧
      (∀ text, (session.held start).1 = .ok (some (.line text)) →
        Printable text.toList ∧ ∀ c ∈ ['\n', '\r', '\x1b'], c ∉ text.toList) ∧
      ∀ exchange ∈ Moment.exchanges ((session.console start).course session.device
          session.operation), ∀ text, exchange.call = .write text →
        ∃ added, text = session.prompt ++ String.ofList added ∧ Printable added := by
  intro start
  have keeps := session.keepsTo_operation (entries_heldAll entries earlier)
  have kept := (session.console start).perform_of_ensures session.device keeps
  refine ⟨fun calls => ?_, kept.1.toIsPrintable, fun text read => ?_, fun exchange member => ?_⟩
  · -- The session keeps to the rule on every terminal, so also on one that breaks down.
    exact (Console.perform_of_ensures session.device.breaking
      { editor := start, stage := { terminal := (calls, session.stage.terminal), events := _ } }
      keeps).1.toIsPrintable
  · -- An entered line is the text of the line that is left.
    have settles := (session.console start).perform_of_ensures session.device
      (Editing.settles_readLine session.keys session.prompt start)
    have content : (session.held start).2.editor.line.content = text := by
      unfold held operation at read
      rw [read] at settles
      exact settles.1
    have clean : Printable text.toList := by
      rw [← content, Line.content, String.toList_ofList]
      exact kept.1.text
    refine ⟨clean, fun c control member => ?_⟩
    have high : Key.firstPrintable ≤ c := clean c member
    simp only [List.mem_cons, List.not_mem_nil, or_false] at control
    rcases control with rfl | rfl | rfl
    all_goals exact absurd high (by decide)
  · exact kept.2 _ (Moment.mem_exchanges.mp member)

/-- After a session that was abandoned, a session in which the keys for tab, escape and enter are
not bound and a key for a letter stands for a line break: nothing of that enters the line. -/
theorem isPrintable_held_unbound :
    let editor : Editor :=
      { Editor.standard with
        bindings := { entries := [⟨.function 2, .none, .enter⟩, ⟨.up, .none, .historyPrevious⟩] }
        history := { capacity := 2, entries := ["né"] } }
    let abandoned : Session :=
      { State := Faulty Script
        device := Faulty.terminal Script.terminal
        stage := { terminal :=
          { faults := [{ call := .write, after := 2, kind := .brokenPipe }]
            inner := { inputs := Script.typing "ab", width := 10 } } }
        prompt := "first> "
        keys := 3 }
    let session : Session :=
      { State := Script
        device := Script.terminal
        stage := { terminal :=
          { inputs := [.key (.ofCode .tab), .key (.ofCode .escape), .key (.ofCode .enter),
              .key { character := '\n', code := .char 'x', modifiers := .none },
              .key (.ofCode .up), .key (.ofChar '!'), .key (.ofCode (.function 2))]
            width := 10 } }
        prompt := "> "
        keys := 7 }
    (∀ entry ∈ editor.history.entries, Printable entry.toList) ∧
      (abandoned.held editor).1 = .error (.io .brokenPipe) ∧
      (session.held (heldAll editor [abandoned])).1 = .ok (some (.line "né!")) ∧
      Printable "né!".toList ∧
      (session.editorAfter 9 (heldAll editor [abandoned])).IsPrintable := by
  intro editor abandoned session
  have entries : ∀ entry ∈ editor.history.entries, Printable entry.toList := by decide
  have failed : (abandoned.held editor).1 = .error (.io .brokenPipe) := by decide +kernel
  have read : (session.held (heldAll editor [abandoned])).1 = .ok (some (.line "né!")) := by
    decide +kernel
  have clean := isPrintable_held editor entries [abandoned] session
  exact ⟨entries, failed, read, (clean.2.2.1 _ read).1, clean.1 9⟩

end Session

end PromptLine
