import PromptLine.Proofs.Script.Screen

/-!
# One paint over another

A paint lays its text over the cells from the first column of its first row on and leaves all other
cells as they are, those beyond the last column too (`PromptLine.Screen.replay_paint`). So of two
paints in the same place the second one hides the first, if it is not shorter
(`PromptLine.Screen.overlay_overlay`), and a paint of what is there already changes no cell
(`PromptLine.Screen.overlay_of_shows`).
-/

namespace PromptLine.Screen

variable {firstRow width : UInt16} {screen : Screen}

/-- After a character the cursor is in one of the columns. -/
theorem col_advanceChar_lt (columns : width ≠ 0) (cursor : Position) (c : Char) :
    (Script.advanceChar width cursor c).col.toNat < width.toNat := by
  unfold Script.advanceChar
  rw [max_one columns]
  by_cases wraps : c = '\n' ∨ width ≤ Script.succ cursor.col
  · rw [if_pos wraps]
    exact toNat_pos columns
  · rw [if_neg wraps]
    have inside : ¬ width ≤ Script.succ cursor.col := fun full => wraps (.inr full)
    simpa only [UInt16.le_iff_toNat_le, Nat.not_le] using inside

/-- No text goes into a cell beyond the last column. -/
theorem cells_type_of_le (columns : width ≠ 0) (text : List Char)
    (there : screen.cursor.col.toNat < width.toNat) {row col : Nat} (beyond : width.toNat ≤ col) :
    (screen.type width text).cells row col = screen.cells row col := by
  induction text generalizing screen with
  | nil => rfl
  | cons c rest ih =>
    have moved := col_advanceChar_lt columns screen.cursor c
    have later : ((screen.put width c).type width rest).cells row col =
        (screen.put width c).cells row col := ih moved
    refine later.trans (if_neg ?_)
    rintro ⟨-, -, same⟩
    omega

/-- **The cells after a text was laid over them**, from the first column of a row on. -/
def overlay (firstRow width : UInt16) (text : List Char) (cells : Nat → Nat → Char) :
    Nat → Nat → Char := fun row col =>
  if firstRow.toNat ≤ row ∧ col < width.toNat then
    text[(row - firstRow.toNat) * width.toNat + col]?.getD (cells row col)
  else cells row col

/-- Cells are those that a text was laid over if they are so offset by offset, and all others are as
before. -/
theorem eq_overlay {text : List Char} {cells next : Nat → Nat → Char}
    (covered : ∀ n, next (firstRow.toNat + n / width.toNat) (n % width.toNat) =
      text[n]?.getD (cells (firstRow.toNat + n / width.toNat) (n % width.toNat)))
    (spared : ∀ row col, ¬ (firstRow.toNat ≤ row ∧ col < width.toNat) →
      next row col = cells row col) :
    next = overlay firstRow width text cells := by
  funext row col
  unfold overlay
  by_cases inside : firstRow.toNat ≤ row ∧ col < width.toNat
  · obtain ⟨n, rfl, rfl⟩ := exists_offset inside.1 inside.2
    rw [if_pos inside, Nat.add_sub_cancel_left, Nat.div_add_mod']
    exact covered n
  · rw [if_neg inside]
    exact spared row col inside

/-- **A paint lays its text over the cells**, as long as the terminal can address its rows. -/
theorem replay_paint (columns : width ≠ 0) {text : String} (plain : '\n' ∉ text.toList)
    (fits : ∀ n < text.toList.length, firstRow.toNat + n / width.toNat ≤ 65535) (screen : Screen)
    (position : Position) :
    screen.replay width [.move { col := 0, row := firstRow }, .write text, .move position] =
      { cells := overlay firstRow width text.toList screen.cells, cursor := position } := by
  let moved : Screen := { screen with cursor := { col := 0, row := firstRow } }
  have painted := cellAt_paint columns plain fits screen position
  have cells : (moved.type width text.toList).cells =
      overlay firstRow width text.toList screen.cells := by
    apply eq_overlay painted
    intro row col outside
    rcases not_and_or.mp outside with above | beyond
    · have below : firstRow.toNat ≤ moved.cursor.row.toNat := Nat.le_refl _
      exact (spares_type below width text.toList).cells row (Nat.lt_of_not_le above) col
    · have start : moved.cursor.col.toNat < width.toNat := toNat_pos columns
      exact cells_type_of_le columns text.toList start (Nat.le_of_not_lt beyond)
  exact congrArg (fun cells => ({ cells := cells, cursor := position } : Screen)) cells

/-- **A paint hides another one** in the same place that is not longer. -/
theorem overlay_overlay {first second : List Char} (longer : first.length ≤ second.length)
    (cells : Nat → Nat → Char) :
    overlay firstRow width second (overlay firstRow width first cells) =
      overlay firstRow width second cells := by
  funext row col
  unfold overlay
  by_cases inside : firstRow.toNat ≤ row ∧ col < width.toNat
  · rw [if_pos inside, if_pos inside, if_pos inside]
    generalize (row - firstRow.toNat) * width.toNat + col = n
    by_cases covered : n < second.length
    · rw [List.getElem?_eq_getElem covered]
      rfl
    · have passed : first.length ≤ n := by omega
      rw [List.getElem?_eq_none passed]
      rfl
  · rw [if_neg inside, if_neg inside, if_neg inside]

/-- **A screen shows a text** from the first column of a row on. -/
def Shows (firstRow width : UInt16) (text : List Char) (screen : Screen) : Prop :=
  ∀ n c, text[n]? = some c → screen.cellAt firstRow width n = c

/-- A paint of a text that the screen shows changes no cell. -/
theorem overlay_of_shows {text : List Char} (shows : screen.Shows firstRow width text) :
    overlay firstRow width text screen.cells = screen.cells := by
  symm
  apply eq_overlay
  · intro n
    cases found : text[n]? with
    | none => rfl
    | some c => exact shows n c found
  · exact fun _ _ _ => rfl

end PromptLine.Screen
