import PromptLine.Proofs.History.Browsing
import PromptLine.Proofs.Repl.Rounds

/-!
# The command that lists the history

The line that names the command is entered before it is obeyed, so it is the newest entry by the
time the entries are listed. The command says that the history is empty only where no entry can be
kept: nothing in the loop changes the capacity, and every history with room for an entry has one
after a line was entered (`PromptLine.History.Valid.entries_add_eq_nil_iff`). What else the history
holds is what the rounds before have left in it (`PromptLine.Repl.Reaches`).
-/

namespace PromptLine.Repl

/-! ### The lines of the listing -/

/-- An entry with its number before it, which is moved to the right in three columns. A number with
more digits stands in full. -/
def numbered (index : Nat) (entry : String) : String :=
  let digits := toString index
  String.ofList (List.replicate (3 - digits.length) ' ') ++ digits ++ "  " ++ entry

/-- The listing has a line for each entry, in their order, with the numbers from zero on. -/
theorem listing_eq (entries : List String) : listing entries = entries.mapIdx numbered := by
  rw [listing, List.mapIdx_eq_zipIdx_map]
  rfl

/-- The newest entry has the last number. -/
theorem getLast?_mapIdx_numbered {entries : List String} {text : String}
    (newest : entries.getLast? = some text) :
    (entries.mapIdx numbered).getLast? = some (numbered (entries.length - 1) text) := by
  rw [List.getLast?_eq_getElem?] at newest
  rw [List.getLast?_eq_getElem?, List.length_mapIdx, List.getElem?_mapIdx, newest, Option.map_some]

/-- Lines that are written are not an error. -/
theorem flatMap_writeLine_ne {lines : List String} (nonempty : lines ≠ []) (rest : List Call) :
    (lines.flatMap fun line => [.writeLine line, .flush]) ≠ .foreground .red :: rest := by
  obtain ⟨first, others, rfl⟩ := List.exists_cons_of_ne_nil nonempty
  simp

/-! ### The rounds before -/

section Remembering
variable {history : History} (settings : Settings) (text : String)

/-- A history is valid after a line was entered. -/
theorem valid_entering (valid : history.Valid) : (entering settings history text).Valid := by
  unfold entering
  split
  · exact valid.add text
  · exact valid

/-- A history is valid after a line was entered and replied to. -/
theorem valid_remembered (valid : history.Valid) : (remembered settings history text).Valid := by
  unfold remembered
  split
  · exact .clear _
  · exact valid_entering settings text valid

/-- The text of a command is not empty, so it is always kept. -/
theorem entering_of_names {text : String} {command : Command} (names : Names text command) :
    entering settings history text = history.add text := by
  apply if_pos
  left
  rintro rfl
  exact not_names_of_blank (by simp) command names

end Remembering

/-- **Rounds in a row**, in each of which the loop went on. -/
inductive Reaches : Console Script → List String → Console Script → Prop where
  | here (console : Console Script) : Reaches console [] console
  | wentOn {start entered next last : Console Script} {text : String} {calls : List Call}
      {lines : List String} (round : Round start text entered calls .goOn next)
      (rest : Reaches next lines last) : Reaches start (text :: lines) last

namespace Reaches
variable {start last : Console Script} {lines : List String}

/-- The history is the one that the lines leave. It is valid if the first one was, and may hold as
many entries. -/
theorem remembers (reaches : Reaches start lines last) {history : History}
    (agrees : history.Agrees start.editor.history) (valid : history.Valid) :
    let left := lines.foldl (remembered start.editor.settings) history
    left.Agrees last.editor.history ∧ left.Valid ∧ left.capacity = history.capacity := by
  induction reaches generalizing history with
  | here console => exact ⟨agrees, valid, rfl⟩
  | @wentOn start entered next last text calls lines round rest ih =>
    have after := (agrees_remembered agrees start.editor.settings text).trans round.remembers
    obtain ⟨kept, still, same⟩ := ih after (valid_remembered _ text valid)
    rw [round.settings_next] at kept still same
    exact ⟨kept, still, same.trans (capacity_remembered ..)⟩

end Reaches

/-- A run comes to each of its lines by the rounds before. -/
theorem Runs.reaches {start last : Console Script} {earlier later : List String} {text : String}
    (runs : Runs start (earlier ++ text :: later) last) :
    ∃ console entered calls flow next, Reaches start earlier console ∧
      Round console text entered calls flow next := by
  induction earlier generalizing start with
  | nil =>
    cases runs with
    | stopped round => exact ⟨start, _, _, _, _, .here start, round⟩
    | wentOn round rest => exact ⟨start, _, _, _, _, .here start, round⟩
  | cons first others ih =>
    obtain ⟨next, entered, calls, round, rest⟩ : ∃ next entered calls,
        Round start first entered calls .goOn next ∧ Runs next (others ++ text :: later) last := by
      generalize whole : first :: others ++ text :: later = lines at runs
      cases runs with
      | ended read history inputs => cases whole
      | stopped round => simp at whole
      | wentOn round rest =>
        obtain ⟨rfl, rfl⟩ := List.cons.inj whole
        exact ⟨_, _, _, round, rest⟩
    obtain ⟨console, entered, calls, flow, next, reaches, there⟩ := ih rest
    exact ⟨console, entered, calls, flow, next, .wentOn round reaches, there⟩

/-! ### Listing -/

/-- **The command that lists the history**, in every run of the loop that starts with a history
that can be reached. It leaves the entries and the place of browsing as they were when its line was
entered. It says that the history is empty if and only if nothing can be kept. Otherwise it writes
a line for each entry, the oldest first, with the numbers from zero on. The last of them is the line
that named the command, with everything that stood around the name. -/
theorem run_lists (start : Console Script) (tame : start.stage.terminal.Tame) (capacity : Nat)
    (taken : List History.Step)
    (reached : start.editor.history = (History.empty capacity).steps taken) :
    let inputs := start.stage.terminal.inputs
    let room := start.editor.history.capacity
    (∃ lines last, Runs start lines last ∧ ∀ keys budget,
        (Input.keys inputs).length < keys → (Input.keys inputs).length < budget →
        start.perform Script.terminal (run keys budget) = (.ok (some ()), last)) ∧
      ∀ earlier text later last, Runs start (earlier ++ text :: later) last →
        Names text .history →
        ∃ console entered calls next, Reaches start earlier console ∧
          Round console text entered calls .goOn next ∧
          next.editor = entered.editor ∧
          let before := earlier.foldl (remembered start.editor.settings) start.editor.history
          let entries := entered.editor.history.entries
          let printed := entries.mapIdx numbered
          entries = (before.add text).entries ∧ entered.editor.history.capacity = room ∧
          (calls = [.foreground .red, .writeLine "History is empty", .resetColor, .flush] ↔
            room = 0) ∧
          (room ≠ 0 → calls = (printed.flatMap fun line => [.writeLine line, .flush]) ∧
            entries.getLast? = some text ∧
            printed.getLast? = some (numbered (entries.length - 1) text)) := by
  intro inputs room
  refine ⟨?goes, ?lists⟩
  case goes =>
    obtain ⟨lines, last, runs, performs, -⟩ := run_rounds start tame
    exact ⟨lines, last, runs, performs⟩
  case lists =>
    intro earlier text later last runs names
    obtain ⟨console, entered, calls, flow, next, reaches, round⟩ := runs.reaches
    obtain ⟨made, rfl, left⟩ := round.replies.obeyed names
    have valid : start.editor.history.Valid := reached ▸ (History.Valid.empty capacity).steps taken
    obtain ⟨agrees, still, same⟩ := reaches.remembers (.refl _) valid
    have history := (agrees.add text).trans (entering_of_names _ names ▸ round.history)
    refine ⟨console, entered, calls, next, reaches, round, left, ?_⟩
    intro before entries printed
    have stored : entries = (before.add text).entries := history.entries
    have capacity_eq : entered.editor.history.capacity = room :=
      history.capacity.trans ((before.capacity_add text).trans same)
    have none_iff : entries = [] ↔ room = 0 := by
      rw [stored, still.entries_add_eq_nil_iff, same]
    have listed (spare : room ≠ 0) :
        calls = printed.flatMap fun line => [.writeLine line, .flush] := by
      have nonempty : ¬ entries.isEmpty :=
        fun empty => spare (none_iff.mp (List.isEmpty_iff.mp empty))
      rw [made, Command.calls, if_neg nonempty, listing_eq]
    refine ⟨stored, capacity_eq, ⟨?only, ?empty⟩, ?listing⟩
    case only =>
      intro error
      by_contra spare
      have nonempty : printed ≠ [] :=
        fun empty => spare (none_iff.mp (List.mapIdx_eq_nil_iff.mp empty))
      exact flatMap_writeLine_ne nonempty _ ((listed spare).symm.trans error)
    case empty =>
      intro noRoom
      rw [made, Command.calls, if_pos (List.isEmpty_iff.mpr (none_iff.mpr noRoom))]
    case listing =>
      intro spare
      have newest : entries.getLast? = some text := stored ▸ History.getLast?_add (same ▸ spare)
      exact ⟨listed spare, newest, getLast?_mapIdx_numbered newest⟩

/-- The name in capitals and between blanks, after one other line. -/
theorem run_lists_spaced :
    let script : Script :=
      { inputs := Script.typing " HISTORY " ++ [.key (.ofCode .enter)], width := 8 }
    let start : Console Script :=
      { editor := { Editor.standard with history := (History.empty 2).steps [.add "hi"] },
        stage := { terminal := script } }
    script.Tame ∧ ∃ later last, Runs start (" HISTORY " :: later) last ∧
      ∃ entered calls next, Round start " HISTORY " entered calls .goOn next ∧
        calls = [.writeLine "  0  hi", .flush, .writeLine "  1   HISTORY ", .flush] := by
  intro script start
  have tame : script.Tame := ⟨rfl, by decide, by simp [script, Script.typing, Input.IsTame]⟩
  obtain ⟨⟨lines, last, runs, -⟩, lists⟩ := run_lists start tame 2 [.add "hi"] rfl
  have read : (start.perform Script.terminal (Editing.readLine 11 prompt)).1 =
      .ok (some (.line " HISTORY ")) := by decide +kernel
  obtain ⟨later, -, -, -, rfl, -⟩ := runs.exists_cons 11 " HISTORY " (by decide) read
  obtain ⟨console, entered, calls, next, reaches, round, -, stored, -, -, listed⟩ :=
    lists [] " HISTORY " later last runs (by decide +kernel)
  cases reaches
  refine ⟨tame, later, last, runs, entered, calls, next, round, ?_⟩
  rw [(listed (by decide)).1, stored]
  decide +kernel

end PromptLine.Repl
