import PromptLine.Proofs.Editor.Contents
import PromptLine.Proofs.Editor.Painted
import PromptLine.Proofs.Script.Session

/-!
# What one key records

A key has one of three traces in the record of a scripted terminal whose writes succeed: none, the
cursor put in its place, or the whole line with as many spaces as the longest paint so far calls for
(`PromptLine.Editing.Records`). Which of them it is follows from what the key does to the line: a
new text is painted, and a cursor in another place is at least put there
(`PromptLine.Console.handle_records`).
-/

namespace PromptLine

namespace Editing

/-- **What a key records** when it leaves a line that stood in a given place: one trace for each
kind of painting, together with the place in which the line stands from then on. -/
inductive Records (line : Line) (geometry : Geometry) :
    Paint → List Operation → Geometry → Prop where
  | nothing : Records line geometry .nothing [] geometry
  | cursor : Records line geometry .cursor
      [.move (geometry.cursorPosition line.cursor line.promptLength)] geometry
  | line {text : String} {spaces : Nat} {shown : Geometry}
      (content : text.toList = line.prompt.toList ++ line.text ++ List.replicate spaces ' ')
      (counted : shown =
        { geometry with maxPrinted := max geometry.maxPrinted line.printedLength })
      (length : text.length = shown.maxPrinted) :
      Records line geometry .line
        [.move { col := 0, row := geometry.firstRow }, .write text,
          .move (shown.cursorPosition line.cursor line.promptLength)] shown

namespace Records
variable {line : Line} {geometry shown : Geometry} {changed : Paint} {recorded : List Operation}

/-- Only painting the line writes a text. -/
theorem write_not_mem (records : Records line geometry changed recorded shown)
    (unpainted : changed ≠ .line) (text : String) : .write text ∉ recorded := by
  cases records with
  | nothing => exact List.not_mem_nil
  | cursor => exact fun member => nomatch List.mem_singleton.mp member
  | line => exact absurd rfl unpainted

/-- Only painting nothing leaves the record as it was. -/
theorem eq_nothing (records : Records line geometry changed [] shown) : changed = .nothing := by
  cases records
  rfl

end Records

/-- Moving the cursor and entering the line paint no text. -/
theorem edited_ne_line (editor : Editor) {action : Action}
    (leaves : action ∈ [.home, .toEnd, .moveLeft, .moveRight, .enter]) :
    (edited editor action).2 ≠ .line := by
  have moved (line? : Option Line) : (withLine? editor .cursor line?).2 ≠ .line := by
    cases line? with
    | none => exact nofun
    | some next => exact nofun
  cases action with
  | home | toEnd | enter => exact nofun
  | moveLeft | moveRight => exact moved _
  | escape | historyPrevious | historyNext | backspace | delete | tab =>
    exact absurd leaves (by decide)

end Editing

namespace Editor

/-- **A key that is not about the text**: it is bound to moving the cursor or to entering the line,
or it is ignored. -/
def LeavesText (key : Key) (editor : Editor) : Prop :=
  match editor.bindings.find? key with
  | some action => action ∈ [.home, .toEnd, .moveLeft, .moveRight, .enter]
  | none => ¬ key.isPrintable

/-- After such a key the line is not painted. -/
theorem LeavesText.ne_line {editor : Editor} {key : Key} (leaves : editor.LeavesText key) :
    (editor.handled key).2 ≠ .line := by
  unfold LeavesText at leaves
  unfold handled
  cases bound : editor.bindings.find? key with
  | some action =>
    rw [bound] at leaves
    exact Editing.edited_ne_line editor leaves
  | none =>
    rw [bound] at leaves
    dsimp only at leaves ⊢
    rw [if_neg leaves]
    exact nofun

/-- **What painting records**, for every kind of painting. -/
theorem exists_records {editor : Editor} {geometry : Geometry}
    (located : editor.geometry = some geometry) (changed : Editing.Paint) :
    ∃ shown, (editor.painted changed).geometry = some shown ∧
      Editing.Records editor.line geometry changed (editor.operations changed) shown := by
  unfold painted operations
  rw [located]
  cases changed with
  | nothing => exact ⟨geometry, located, .nothing⟩
  | cursor => exact ⟨geometry, located, .cursor⟩
  | line =>
    let printed := editor.line.printedLength
    refine ⟨_, rfl, .line (Editing.toList_paintedText _ _) rfl ?_⟩
    rw [← String.length_toList, Editing.length_paintedText]
    change printed + (geometry.maxPrinted - printed) = max geometry.maxPrinted printed
    omega

end Editor

/-- **What one key records** on a terminal whose writes succeed, once it is known where the line
stands. A key that changes the text paints the line, and one that changes the place of the cursor
puts it there at least. A key that is not about the text writes none. So the record stays as it was
only if text and cursor do. -/
theorem Console.handle_records (console : Console Script)
    (works : console.stage.terminal.writeFailure? = none) {geometry : Geometry}
    (located : console.editor.geometry = some geometry) (key : Key) :
    let performed := console.perform Script.terminal (Editing.handle key)
    let line := console.editor.line
    let next := performed.2.editor.line
    performed.1 = .ok () ∧ ∃ changed recorded shown,
      performed.2.stage.terminal.operations.toList =
          console.stage.terminal.operations.toList ++ recorded ∧
        performed.2.editor.geometry = some shown ∧
        Editing.Records next geometry changed recorded shown ∧
        (next.text ≠ line.text → changed = .line) ∧
        (next.cursor ≠ line.cursor → changed = .cursor ∨ changed = .line) ∧
        (console.editor.LeavesText key → ∀ text, .write text ∉ recorded) ∧
        (recorded = [] → next.text = line.text ∧ next.cursor = line.cursor) := by
  intro performed line next
  have handles : performed = (.ok (), console.handles key) := console.perform_handle works key
  let handled := console.editor.handled key
  have same : next = handled.1.line := by
    change performed.2.editor.line = _
    rw [handles]
    exact (handled.1.repaints_painted handled.2).line_eq
  have kept : handled.1.geometry = some geometry :=
    (console.editor.geometry_handled key).trans located
  obtain ⟨shown, reached, records⟩ := Editor.exists_records kept handled.2
  have text : handled.1.line.text ≠ line.text → handled.2 = .line :=
    Decidable.not_imp_comm.mp (console.editor.text_handled key)
  have cursor : handled.2 = .nothing → handled.1.line.cursor = line.cursor :=
    console.editor.cursor_handled key
  rw [same, handles]
  refine ⟨rfl, handled.2, handled.1.operations handled.2, shown, ?grows, reached, records, text,
    ?moved, ?leaves, ?still⟩
  case grows => exact Script.recordAll_operations _ _
  case moved =>
    intro moved
    cases changed : handled.2 with
    | nothing => exact absurd (cursor changed) moved
    | cursor => exact Or.inl rfl
    | line => exact Or.inr rfl
  case leaves => exact fun leaves => records.write_not_mem leaves.ne_line
  case still =>
    intro none
    rw [none] at records
    have nothing : handled.2 = .nothing := records.eq_nothing
    refine ⟨console.editor.text_handled key ?_, cursor nothing⟩
    exact fun painted => nomatch nothing.symm.trans painted

/-- The last character of a text is erased, on a terminal with three columns and after a longer line
was painted. -/
theorem Console.handle_records_erased :
    let line : Line := { prompt := "> ", text := "abc".toList, cursor := 3 }
    let geometry : Geometry := { firstRow := 4, width := 3, maxPrinted := 7 }
    let console : Console Script :=
      { editor := { Editor.standard with line := line, geometry := some geometry }
        stage := { terminal := { inputs := [], width := 3 } } }
    let performed := console.perform Script.terminal (Editing.handle (Key.ofCode .backspace))
    let recorded : List Operation :=
      [.move { col := 0, row := 4 }, .write "> ab   ", .move { col := 1, row := 5 }]
    performed.2.stage.terminal.operations.toList = recorded ∧
      ∃ shown, Editing.Records performed.2.editor.line geometry .line recorded shown := by
  intro line geometry console performed recorded
  obtain ⟨-, changed, added, shown, grew, -, records, painted, -⟩ :=
    handle_records console rfl rfl (Key.ofCode .backspace)
  have all : performed.2.stage.terminal.operations.toList = recorded := by decide +kernel
  have same : recorded = added := all.symm.trans grew
  have shorter : performed.2.editor.line.text ≠ line.text := by decide +kernel
  rw [same]
  exact ⟨grew, shown, painted shorter ▸ records⟩

end PromptLine
