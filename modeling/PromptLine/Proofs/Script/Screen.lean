import Mathlib.Data.List.Basic
import PromptLine.Proofs.Script.Painting

/-!
# What recorded operations show

A scripted terminal records what it was asked to write and where its cursor was moved to. Replayed on
a screen of cells, the record shows what a user would see: a character goes into the cell of the
cursor, and the cursor moves on as that of the terminal does.

The cells of a painted line are counted from the first column of its first row. Written from one
offset on, a text without line breaks goes into the cells with the offsets that follow, as long as
these are in rows that the terminal can address, and into no other cells
(`PromptLine.Screen.cellAt_type`). A text only goes on downwards, so the rows above those that the
cursor is moved into stay as they are (`PromptLine.Screen.spares_replay`).
-/

namespace PromptLine

/-- A number that is too large becomes the largest one. -/
theorem toNat_ofNatClamp (n : Nat) : (UInt16.ofNatClamp n).toNat = min n 65535 := by
  unfold UInt16.ofNatClamp
  by_cases small : n < UInt16.size
  · rw [dif_pos small, UInt16.toNat_ofNatLT]
    exact (Nat.min_eq_left (Nat.le_of_lt_succ small)).symm
  · rw [dif_neg small, UInt16.toNat_ofNatLT]
    exact (Nat.min_eq_right (Nat.le_of_succ_le (Nat.le_of_not_lt small))).symm

/-- **A screen**: the characters in its cells, by row and column, and a cursor. -/
structure Screen where
  cells : Nat → Nat → Char
  cursor : Position

namespace Screen

/-- The screen after a character on a terminal of a given width. A line break goes into no cell. -/
def put (width : UInt16) (screen : Screen) (c : Char) : Screen where
  cells := fun row col =>
    if c ≠ '\n' ∧ row = screen.cursor.row.toNat ∧ col = screen.cursor.col.toNat then c
    else screen.cells row col
  cursor := Script.advanceChar width screen.cursor c

/-- The screen after a text. -/
def type (width : UInt16) (screen : Screen) (text : List Char) : Screen :=
  text.foldl (put width) screen

/-- The screen after an operation. -/
def act (width : UInt16) (screen : Screen) (operation : Operation) : Screen :=
  match operation.target? with
  | some position => { screen with cursor := position }
  | none => screen.type width operation.text.toList

/-- **The screen after recorded operations.** -/
def replay (width : UInt16) (screen : Screen) (operations : List Operation) : Screen :=
  operations.foldl (act width) screen

section Cells
variable (firstRow width : UInt16)

/-- The place with an offset from the first column of a row. -/
def place (offset : Nat) : Position where
  col := .ofNatClamp (offset % width.toNat)
  row := .ofNatClamp (firstRow.toNat + offset / width.toNat)

/-- The character in the cell with an offset from the first column of a row. -/
def cellAt (screen : Screen) (offset : Nat) : Char :=
  screen.cells (firstRow.toNat + offset / width.toNat) (offset % width.toNat)

variable {firstRow width}

/-- A terminal with columns has at least one. -/
theorem toNat_pos (columns : width ≠ 0) : 0 < width.toNat :=
  Nat.pos_of_ne_zero fun zero => columns (UInt16.toNat_inj.mp zero)

/-- A terminal with columns is not treated as one with a single column. -/
theorem max_one (columns : width ≠ 0) : max width 1 = width := by
  have positive := toNat_pos columns
  change (if width ≤ 1 then 1 else width) = width
  by_cases single : width ≤ 1
  · rw [if_pos single]
    have atMost : width.toNat ≤ 1 := UInt16.le_iff_toNat_le.mp single
    exact UInt16.toNat_inj.mp (show 1 = width.toNat by omega)
  · rw [if_neg single]

/-- The column is what remains of an offset after whole rows. -/
theorem place_col (columns : width ≠ 0) (offset : Nat) :
    (place firstRow width offset).col.toNat = offset % width.toNat := by
  have inside : offset % width.toNat < width.toNat := Nat.mod_lt _ (toNat_pos columns)
  have bounded : width.toNat < 65536 := width.toNat_lt
  unfold place
  rw [toNat_ofNatClamp]
  omega

/-- The row is as many rows down as the offset fills, or the last one that can be named. -/
theorem place_row (offset : Nat) : (place firstRow width offset).row.toNat =
    min (firstRow.toNat + offset / width.toNat) 65535 :=
  toNat_ofNatClamp _

/-- The line starts in the first column of its first row. -/
theorem place_zero (firstRow width : UInt16) :
    place firstRow width 0 = { col := 0, row := firstRow } := by
  unfold place
  rw [Nat.zero_mod, Nat.zero_div, Nat.add_zero, UInt16.ofNatClamp_toNat]
  rfl

/-- After a character that is no line break, the cursor is one place further on. -/
theorem advanceChar_place (columns : width ≠ 0) {c : Char} (plain : c ≠ '\n') (offset : Nat) :
    Script.advanceChar width (place firstRow width offset) c =
      place firstRow width (offset + 1) := by
  have positive := toNat_pos columns
  have bounded : width.toNat < 65536 := width.toNat_lt
  have inside : offset % width.toNat < width.toNat := Nat.mod_lt _ positive
  have split : width.toNat * (offset / width.toNat) + offset % width.toNat = offset :=
    Nat.div_add_mod _ _
  have next : (Script.succ (place firstRow width offset).col).toNat = offset % width.toNat + 1 := by
    rw [Script.succ, toNat_ofNatClamp, place_col columns]
    omega
  have wraps : (c = '\n' ∨ max width 1 ≤ Script.succ (place firstRow width offset).col) ↔
      width.toNat = offset % width.toNat + 1 := by
    rw [max_one columns, UInt16.le_iff_toNat_le, next]
    constructor
    · rintro (broken | full)
      · exact absurd broken plain
      · omega
    · exact fun full => Or.inr (Nat.le_of_eq full)
  unfold Script.advanceChar
  by_cases full : width.toNat = offset % width.toNat + 1
  · obtain ⟨row, col⟩ := (Nat.div_mod_unique positive).mpr
      (show 0 + width.toNat * (offset / width.toNat + 1) = offset + 1 ∧ 0 < width.toNat from
        ⟨by rw [Nat.mul_add_one]; omega, positive⟩)
    rw [if_pos (wraps.mpr full)]
    refine congrArg₂ Position.mk ?_ (UInt16.toNat_inj.mp ?_)
    · rw [col]
      rfl
    · rw [Script.succ, toNat_ofNatClamp, place_row, toNat_ofNatClamp, row]
      omega
  · obtain ⟨row, col⟩ := (Nat.div_mod_unique positive).mpr
      (show offset % width.toNat + 1 + width.toNat * (offset / width.toNat) = offset + 1 ∧
        offset % width.toNat + 1 < width.toNat by omega)
    rw [if_neg (mt wraps.mp full)]
    refine congrArg₂ Position.mk (UInt16.toNat_inj.mp ?_) ?_
    · rw [next, toNat_ofNatClamp, col]
      omega
    · rw [row]
      rfl

/-- Different offsets are in different cells. -/
theorem offset_inj {width first second : Nat} (row : first / width = second / width)
    (col : first % width = second % width) : first = second := by
  rw [← Nat.div_add_mod first width, row, col, Nat.div_add_mod]

/-- Every cell below the start of a row has an offset from there. -/
theorem exists_offset {first row col width : Nat} (below : first ≤ row) (inside : col < width) :
    ∃ offset, row = first + offset / width ∧ col = offset % width := by
  have positive : 0 < width := Nat.zero_lt_of_lt inside
  obtain ⟨rows, cols⟩ := (Nat.div_mod_unique positive).mpr
    (show col + width * (row - first) = col + width * (row - first) ∧ col < width from
      ⟨rfl, inside⟩)
  refine ⟨col + width * (row - first), ?_, cols.symm⟩
  omega

/-- A character goes into the cell of the cursor and into no other. -/
theorem cellAt_put (columns : width ≠ 0) {screen : Screen} {offset : Nat}
    (there : screen.cursor = place firstRow width offset)
    (fits : firstRow.toNat + offset / width.toNat ≤ 65535) {c : Char} (plain : c ≠ '\n') (n : Nat) :
    (screen.put width c).cellAt firstRow width n =
      if n = offset then c else screen.cellAt firstRow width n := by
  have row : screen.cursor.row.toNat = firstRow.toNat + offset / width.toNat := by
    rw [there, place_row, Nat.min_eq_left fits]
  have col : screen.cursor.col.toNat = offset % width.toNat := by rw [there, place_col columns]
  unfold cellAt put
  dsimp only
  rw [row, col]
  by_cases same : n = offset
  · rw [if_pos same, if_pos ⟨plain, by rw [same], by rw [same]⟩]
  · rw [if_neg same, if_neg]
    rintro ⟨-, rows, cols⟩
    exact same (offset_inj (Nat.add_left_cancel rows) cols)

/-- **A text** goes into the cells from its offset on and into no others. -/
theorem cellAt_type (columns : width ≠ 0) {text : List Char} (plain : '\n' ∉ text)
    {screen : Screen} {offset : Nat} (there : screen.cursor = place firstRow width offset)
    (fits : ∀ n < offset + text.length, firstRow.toNat + n / width.toNat ≤ 65535) (n : Nat) :
    (screen.type width text).cellAt firstRow width n =
      if n < offset then screen.cellAt firstRow width n
      else text[n - offset]?.getD (screen.cellAt firstRow width n) := by
  induction text generalizing screen offset with
  | nil =>
    rw [List.getElem?_nil, Option.getD_none, ite_self]
    rfl
  | cons c rest ih =>
    obtain ⟨first, others⟩ := List.ne_and_not_mem_of_not_mem_cons plain
    have moved : (screen.put width c).cursor = place firstRow width (offset + 1) := by
      rw [← advanceChar_place columns first.symm, ← there]
      rfl
    have put := cellAt_put columns there (fits offset (by simp)) first.symm n
    have typed := ih others moved fun m inside => fits m (by rw [List.length_cons]; omega)
    change ((screen.put width c).type width rest).cellAt firstRow width n = _
    rw [typed, put]
    rcases Nat.lt_trichotomy n offset with before | same | after
    · rw [if_pos before, if_pos (by omega), if_neg (by omega)]
    · rw [if_pos (by omega), if_pos same, if_neg (by omega), same, Nat.sub_self]
      rfl
    · rw [if_neg (by omega), if_neg (by omega), if_neg (by omega)]
      have shifted : n - offset = n - (offset + 1) + 1 := by omega
      rw [shifted, List.getElem?_cons_succ]

end Cells

/-! ### Replaying -/

/-- Operations in a row are replayed one after the other. -/
theorem replay_append (width : UInt16) (screen : Screen) (first second : List Operation) :
    screen.replay width (first ++ second) = (screen.replay width first).replay width second :=
  List.foldl_append

/-- The cursor is where the screen has it after the text was typed. -/
theorem advance_eq_cursor_type (width : UInt16) (text : List Char) (screen : Screen) :
    (screen.type width text).cursor = Script.advance width screen.cursor text := by
  induction text generalizing screen with
  | nil => rfl
  | cons c rest ih => exact ih (screen.put width c)

/-- A line break goes into no cell. -/
theorem cells_lineBreak (width : UInt16) (screen : Screen) (position : Position) :
    (screen.replay width [.move position, .writeLine "", .flush]).cells = screen.cells := by
  let moved : Screen := { screen with cursor := position }
  change (moved.put width '\n').cells = moved.cells
  simp [put]

/-- The cursor of the screen goes where that of the terminal goes. -/
theorem cursor_replay (script : Script) (operations : List Operation) {screen : Screen}
    (same : screen.cursor = script.cursor) :
    (screen.replay script.width operations).cursor = (script.recordAll operations).cursor := by
  induction operations generalizing screen script with
  | nil => exact same
  | cons operation rest ih =>
    have moved : (screen.act script.width operation).cursor = (script.record operation).cursor := by
      unfold act Script.record
      cases operation.target? with
      | some position => rfl
      | none =>
        change (screen.type _ _).cursor = Script.advance _ _ _
        rw [advance_eq_cursor_type, same]
    exact ih (script.record operation) moved

section Paint
variable {firstRow width : UInt16}

/-- **A painted text** is in the cells from the start of its first row on. -/
theorem cellAt_paint (columns : width ≠ 0) {text : String} (plain : '\n' ∉ text.toList)
    (fits : ∀ n < text.toList.length, firstRow.toNat + n / width.toNat ≤ 65535) (screen : Screen)
    (position : Position) (n : Nat) :
    (screen.replay width [.move { col := 0, row := firstRow }, .write text, .move position]).cellAt
        firstRow width n =
      text.toList[n]?.getD (screen.cellAt firstRow width n) := by
  let moved : Screen := { screen with cursor := { col := 0, row := firstRow } }
  have there : moved.cursor = place firstRow width 0 := (place_zero firstRow width).symm
  have typed := cellAt_type columns plain there (by simpa only [Nat.zero_add] using fits) n
  rw [if_neg (Nat.not_lt_zero n), Nat.sub_zero] at typed
  exact typed

end Paint

/-! ### Rows above the cursor -/

/-- **The rows above one are spared**: the cursor is in none of them, and they are as they were. -/
structure Spares (row : Nat) (before after : Screen) : Prop where
  cursor : row ≤ after.cursor.row.toNat
  cells : ∀ above < row, ∀ col, after.cells above col = before.cells above col

/-- Rows that are spared twice are spared. -/
theorem Spares.trans {row : Nat} {first second third : Screen} (spares : first.Spares row second)
    (further : second.Spares row third) : first.Spares row third where
  cursor := further.cursor
  cells above inside col := (further.cells above inside col).trans (spares.cells above inside col)

/-- A character moves no cursor up. -/
theorem row_le_advanceChar (width : UInt16) (cursor : Position) (c : Char) :
    cursor.row.toNat ≤ (Script.advanceChar width cursor c).row.toNat := by
  have bounded : cursor.row.toNat < 65536 := cursor.row.toNat_lt
  unfold Script.advanceChar
  dsimp only
  split
  · rw [Script.succ, toNat_ofNatClamp]
    omega
  · exact Nat.le_refl _

end Screen

/-- The operation moves the cursor into no row above one, if it moves it. -/
def Operation.StaysBelow (row : Nat) (operation : Operation) : Prop :=
  ∀ position ∈ operation.target?, row ≤ position.row.toNat

namespace Screen
variable {row : Nat} {screen : Screen} (below : row ≤ screen.cursor.row.toNat) (width : UInt16)
include below

/-- A character that is put below a row spares the rows above it. -/
theorem spares_put (c : Char) : screen.Spares row (screen.put width c) where
  cursor := Nat.le_trans below (row_le_advanceChar width screen.cursor c)
  cells above inside col := by
    apply if_neg
    rintro ⟨-, same, -⟩
    omega

/-- A text that is typed below a row spares the rows above it. -/
theorem spares_type (text : List Char) : screen.Spares row (screen.type width text) := by
  induction text generalizing screen with
  | nil => exact ⟨below, fun _ _ _ => rfl⟩
  | cons c rest ih =>
    have first := spares_put below width c
    exact first.trans (ih first.cursor)

/-- An operation that stays below a row spares the rows above it. -/
theorem spares_act {operation : Operation} (stays : operation.StaysBelow row) :
    screen.Spares row (screen.act width operation) := by
  unfold act
  cases target : operation.target? with
  | none => exact spares_type below width operation.text.toList
  | some position => exact ⟨stays position target, fun _ _ _ => rfl⟩

/-- **Operations spare the rows** that they do not move the cursor into. -/
theorem spares_replay {operations : List Operation}
    (stay : ∀ operation ∈ operations, operation.StaysBelow row) :
    screen.Spares row (screen.replay width operations) := by
  induction operations generalizing screen with
  | nil => exact ⟨below, fun _ _ _ => rfl⟩
  | cons operation rest ih =>
    obtain ⟨stays, others⟩ := List.forall_mem_cons.mp stay
    have first := spares_act below width stays
    exact first.trans (ih first.cursor others)

end Screen

end PromptLine
