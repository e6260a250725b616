import PromptLine.Proofs.Line.Halves
import PromptLine.Proofs.Session.Outcome

/-!
# The reference editor

What the keys do to the text can be said without a terminal. A draft is the text cut in two and a
place in the history; `Rules.press` is what a key makes of it, and knows neither of a prompt nor of
a screen. An editor holds a draft if that is what it has of the text and of the place
(`PromptLine.Editor.Holds`), and a key that the editor handles is pressed on the draft
(`PromptLine.Editor.Holds.handled`).
-/

namespace PromptLine

/-- **What is being written**: the text in two halves, and the place in the history. -/
structure Draft extends Halves where
  browsing : Option Nat := none
deriving DecidableEq, Repr

/-- What the keys do depends on the bindings, the entries of the history and the tab width. -/
structure Rules where
  bindings : Bindings
  entries : List String
  tabWidth : Nat

namespace Draft

/-- The entry at an index in place of the text. -/
def visit (entries : List String) (index : Nat) (draft : Draft) : Draft :=
  match entries[index]? with
  | some entry => { before := entry.toList, browsing := some index }
  | none => { draft with browsing := some index }

/-- The entry before, and at first the newest. -/
def older (entries : List String) (draft : Draft) : Draft :=
  if entries.isEmpty then draft
  else match draft.browsing with
    | some 0 => draft
    | some (index + 1) => draft.visit entries index
    | none => draft.visit entries (entries.length - 1)

/-- The entry after; after the newest, the place is given up. -/
def newer (entries : List String) (draft : Draft) : Draft :=
  match draft.browsing with
  | some index =>
    if index + 1 < entries.length then draft.visit entries (index + 1)
    else { draft with browsing := none }
  | none => draft

end Draft

namespace Rules

/-- What an action makes of a draft. -/
def carryOut (rules : Rules) (draft : Draft) : Action → Draft
  | .escape => { draft with toHalves := {} }
  | .home => { draft with toHalves := draft.toStart }
  | .toEnd => { draft with toHalves := draft.toEnd }
  | .moveLeft => { draft with toHalves := draft.left }
  | .moveRight => { draft with toHalves := draft.right }
  | .historyPrevious => draft.older rules.entries
  | .historyNext => draft.newer rules.entries
  | .backspace => { draft with toHalves := draft.backspace }
  | .delete => { draft with toHalves := draft.delete }
  | .enter => draft
  | .tab => { draft with toHalves := draft.insert (List.replicate rules.tabWidth ' ') }

/-- **What a key makes of a draft.** -/
def press (rules : Rules) (draft : Draft) (key : Key) : Draft :=
  match rules.bindings.find? key with
  | some action => rules.carryOut draft action
  | none => if key.isPrintable then { draft with toHalves := draft.insert [key.character] } else draft

end Rules

namespace Editor

/-- The rules by which an editor edits. -/
def rules (editor : Editor) : Rules where
  bindings := editor.bindings
  entries := editor.history.entries
  tabWidth := editor.settings.tabWidth

/-- **The editor holds a draft.** -/
structure Holds (editor : Editor) (draft : Draft) : Prop where
  line : editor.line.Cut draft.toHalves
  browsing : editor.history.browsing = draft.browsing

/-- Neither keys nor painting change the rules. -/
theorem rules_handled (editor : Editor) (key : Key) :
    (editor.handled key).1.rules = editor.rules := by
  have kept := editor.keepsHistory_handled key
  unfold rules
  rw [kept.history.entries, kept.settings, handled_eq]

/-- Painting leaves the rules of an editor as they are. -/
theorem Repaints.rules_eq {before after : Editor} (repaints : before.Repaints after) :
    after.rules = before.rules := by
  rw [repaints]
  rfl

namespace Holds
variable {editor after : Editor} {draft : Draft}

/-- Painting leaves the draft as it is. -/
theorem of_repaints (holds : editor.Holds draft) (repaints : editor.Repaints after) :
    after.Holds draft where
  line := repaints.line_eq ▸ holds.line
  browsing := repaints.history_eq ▸ holds.browsing

/-- An edit of the line is one of the halves. -/
theorem withLine? (holds : editor.Holds draft) {line? : Option Line} {halves : Halves}
    (cut : (line?.getD editor.line).Cut halves) (paint : Editing.Paint) :
    (Editing.withLine? editor paint line?).1.Holds { draft with toHalves := halves } := by
  cases line? with
  | none => exact ⟨cut, holds.browsing⟩
  | some line => exact ⟨cut, holds.browsing⟩

/-- Going to an entry shows it. -/
theorem withEntry (holds : editor.Holds draft) (index : Nat) :
    (Editing.withEntry editor (editor.history.entries[index]?,
      { editor.history with browsing := some index })).1.Holds
        (draft.visit editor.history.entries index) := by
  unfold Editing.withEntry Draft.visit
  cases editor.history.entries[index]? with
  | none => exact ⟨holds.line, rfl⟩
  | some entry => exact ⟨.replace _ _, rfl⟩

/-- Going back in the history shows the older entry as the draft. -/
theorem older (holds : editor.Holds draft) :
    (Editing.withEntry editor editor.history.previous).1.Holds
      (draft.older editor.history.entries) := by
  have stays (stuck : editor.history.entries.isEmpty ∨ editor.history.browsing = some 0) :
      (Editing.withEntry editor editor.history.previous).1.Holds draft := by
    rw [History.previous, if_pos stuck]
    exact holds
  have goes (index : Nat) (filled : ¬ editor.history.entries.isEmpty)
      (inside : editor.history.browsing ≠ some 0)
      (target : editor.history.browsing.getD editor.history.length - 1 = index) :
      (Editing.withEntry editor editor.history.previous).1.Holds
        (draft.visit editor.history.entries index) := by
    rw [History.previous, if_neg (not_or.mpr ⟨filled, inside⟩), target]
    exact holds.withEntry index
  unfold Draft.older
  by_cases empty : editor.history.entries.isEmpty
  · rw [if_pos empty]
    exact stays (Or.inl empty)
  rw [if_neg empty]
  rcases place : draft.browsing with _ | _ | index
  all_goals
    have browsing := holds.browsing.trans place
  · exact goes _ empty (by simp [browsing]) (by rw [browsing]; rfl)
  · exact stays (Or.inr browsing)
  · exact goes _ empty (by simp [browsing]) (by rw [browsing]; rfl)

/-- Going forward in the history shows the newer entry as the draft. -/
theorem newer (holds : editor.Holds draft) :
    (Editing.withEntry editor editor.history.next).1.Holds
      (draft.newer editor.history.entries) := by
  unfold History.next Draft.newer
  rw [holds.browsing]
  cases draft.browsing with
  | none => exact holds
  | some index =>
    dsimp only
    by_cases inside : index + 1 < editor.history.length
    · have listed : index + 1 < editor.history.entries.length := inside
      rw [if_pos inside, if_pos listed]
      exact holds.withEntry (index + 1)
    · have last : ¬ index + 1 < editor.history.entries.length := inside
      rw [if_neg inside, if_neg last]
      exact ⟨holds.line, rfl⟩

/-- An action is carried out on the draft. -/
theorem edited (holds : editor.Holds draft) (action : Action) :
    (Editing.edited editor action).1.Holds (editor.rules.carryOut draft action) := by
  cases action with
  | escape => exact ⟨.clear _, holds.browsing⟩
  | home => exact ⟨holds.line.toStart, holds.browsing⟩
  | toEnd => exact ⟨holds.line.toEnd, holds.browsing⟩
  | moveLeft => exact holds.withLine? holds.line.left .cursor
  | moveRight => exact holds.withLine? holds.line.right .cursor
  | historyPrevious => exact holds.older
  | historyNext => exact holds.newer
  | backspace => exact holds.withLine? holds.line.backspace .line
  | delete => exact holds.withLine? holds.line.delete .line
  | enter => exact ⟨holds.line.finish, holds.browsing⟩
  | tab => exact ⟨holds.line.insert _, holds.browsing⟩

/-- **A key is pressed on the draft** that an editor holds when the editor handles it. -/
theorem handled (holds : editor.Holds draft) (key : Key) :
    (editor.handled key).1.Holds (editor.rules.press draft key) := by
  unfold Editor.handled Rules.press
  rw [rules]
  cases editor.bindings.find? key with
  | some action => exact holds.edited action
  | none =>
    by_cases printable : key.isPrintable
    · simp only [printable, ↓reduceIte]
      exact ⟨holds.line.insertChar _, holds.browsing⟩
    · simp only [printable, Bool.false_eq_true, ↓reduceIte]
      exact holds

end Holds

end Editor

end PromptLine
