import PromptLine.Proofs.Script.Screen

/-!
# How a line wraps

A scripted terminal advances its cursor one character at a time, and begins a new row after the last
column. A geometry finds the place of a cursor by dividing its offset by the width. Both come to the
same place for every text without line breaks, in however many pieces it is written
(`PromptLine.Geometry.cursorPosition_eq_written`): at the exact end of a row, on a single column, and
in rows so far down that they are taken to be the last one.
-/

namespace PromptLine

namespace Screen

/-- After a text without line breaks, the cursor is as many places further on as it has characters.
-/
theorem advance_place {firstRow width : UInt16} (columns : width ≠ 0) {text : List Char}
    (plain : '\n' ∉ text) (offset : Nat) :
    Script.advance width (place firstRow width offset) text =
      place firstRow width (offset + text.length) := by
  induction text generalizing offset with
  | nil => rfl
  | cons c rest ih =>
    obtain ⟨first, others⟩ := List.ne_and_not_mem_of_not_mem_cons plain
    calc Script.advance width (place firstRow width offset) (c :: rest)
      _ = Script.advance width (place firstRow width (offset + 1)) rest := by
          rw [← advanceChar_place columns first.symm]
          rfl
      _ = place firstRow width (offset + 1 + rest.length) := ih others (offset + 1)
      _ = place firstRow width (offset + (c :: rest).length) := by
          rw [List.length_cons, Nat.add_assoc, Nat.add_comm 1]

end Screen

namespace Script

/-- Texts that are written one after the other take the cursor where they would take it in one. -/
theorem cursor_recordAll_write (texts : List String) (script : Script) :
    (script.recordAll (texts.map .write)).cursor =
      advance script.width script.cursor (texts.flatMap String.toList) := by
  induction texts generalizing script with
  | nil => rfl
  | cons text rest ih =>
    rw [List.map_cons, recordAll_cons, ih, List.flatMap_cons, advance, advance, List.foldl_append]
    rfl

/-- Written from the start of a row, a text without line breaks is as long as the offset of the
cursor behind it. -/
theorem cursor_recordAll_write_of_start {script : Script} {firstRow : UInt16} {text : List Char}
    (columns : script.width ≠ 0) (here : script.cursor = { col := 0, row := firstRow })
    (plain : '\n' ∉ text) {pieces : List String} (whole : pieces.flatMap String.toList = text) :
    (script.recordAll (pieces.map .write)).cursor =
      Screen.place firstRow script.width text.length := by
  rw [cursor_recordAll_write, whole, here, ← Screen.place_zero firstRow script.width,
    Screen.advance_place columns plain, Nat.zero_add]

end Script

/-- Texts are written one after the other as long as writes succeed. -/
theorem Console.perform_forM_write (console : Console Script)
    (works : console.stage.terminal.writeFailure? = none) (texts : List String) :
    console.perform Script.terminal (forM texts fun text => Editing.call (.write text)) =
      (.ok (), console.shows (texts.map .write)) := by
  induction texts generalizing console with
  | nil => rfl
  | cons text rest ih =>
    rw [List.forM_cons, perform_bind_of_ok (perform_write console works text)]
    exact ih (console.shows [.write text]) works

namespace Geometry

/-- A geometry takes an offset that can be counted to its place on the screen. -/
theorem cursorPosition_eq_place_of_le (geometry : Geometry) {cursor promptLength : Nat}
    (counted : cursor + promptLength ≤ maxOffset) :
    geometry.cursorPosition cursor promptLength =
      Screen.place geometry.firstRow geometry.width (cursor + promptLength) := by
  unfold cursorPosition Screen.place
  rw [Nat.min_eq_left counted]

/-- In rows that can be addressed, the place of a cursor is the one with its offset. -/
theorem cursorPosition_eq_place {geometry : Geometry} {cursor promptLength : Nat}
    (fits : geometry.firstRow.toNat + (cursor + promptLength) / geometry.width.toNat ≤ 65535)
    (columns : geometry.width ≠ 0) :
    geometry.cursorPosition cursor promptLength =
      Screen.place geometry.firstRow geometry.width (cursor + promptLength) := by
  have positive := Screen.toNat_pos columns
  have bounded : geometry.width.toNat < 65536 := geometry.width.toNat_lt
  have rows : (cursor + promptLength) / geometry.width.toNat < 65536 := by omega
  have offset : cursor + promptLength < 65536 * 65536 := by
    have below := (Nat.div_lt_iff_lt_mul positive).mp rows
    exact Nat.lt_of_lt_of_le below (Nat.mul_le_mul_left 65536 (Nat.le_of_lt bounded))
  apply geometry.cursorPosition_eq_place_of_le
  change cursor + promptLength ≤ 2 ^ 64 - 1
  omega

/-- There is a geometry for every number of columns but zero. -/
theorem start_of_ne_zero {width : UInt16} (columns : width ≠ 0) (firstRow : UInt16) :
    start firstRow width = .ok { firstRow, width } :=
  if_neg columns

/-- The column of a cursor is the remainder of its offset. -/
theorem toNat_col_cursorPosition {geometry : Geometry} (columns : geometry.width ≠ 0)
    (cursor promptLength : Nat) :
    (geometry.cursorPosition cursor promptLength).col.toNat =
      min (cursor + promptLength) maxOffset % geometry.width.toNat :=
  Screen.place_col columns _

/-- The row of a cursor is as far below the first one as the offset fills rows. -/
theorem toNat_row_cursorPosition (geometry : Geometry) (cursor promptLength : Nat) :
    (geometry.cursorPosition cursor promptLength).row.toNat =
      min (geometry.firstRow.toNat + min (cursor + promptLength) maxOffset / geometry.width.toNat)
        65535 :=
  Screen.place_row _

/-- **Writing and dividing agree.** On a terminal with columns whose cursor is at the start of a
row, two texts without line breaks, written in any pieces, leave the cursor where the geometry of
that row has the cursor behind the second text, with the first one as the prompt. They must not be
too long to be counted, which no texts in a memory with addresses of 64 bits are. The column that a
geometry gives is always one of the terminal's, and row and column together give the offset back, if
neither of them was too large. -/
theorem cursorPosition_eq_written (firstRow width : UInt16) (columns : width ≠ 0) :
    ∃ geometry, start firstRow width = .ok geometry ∧
      (∀ (console : Console Script) (prompt text : String) (pieces : List String),
        console.stage.terminal.writeFailure? = none → console.stage.terminal.width = width →
        console.stage.terminal.cursor = { col := 0, row := firstRow } →
        '\n' ∉ prompt.toList → '\n' ∉ text.toList →
        prompt.length + text.length ≤ maxOffset →
        pieces.flatMap String.toList = prompt.toList ++ text.toList →
        ∃ written, console.perform Script.terminal
            (forM pieces fun piece => Editing.call (.write piece)) = (.ok (), written) ∧
          written.stage.terminal.cursor = geometry.cursorPosition text.length prompt.length) ∧
      ∀ cursor promptLength,
        let position := geometry.cursorPosition cursor promptLength
        position.col < width ∧
          (cursor + promptLength ≤ maxOffset →
            firstRow.toNat + (cursor + promptLength) / width.toNat ≤ 65535 →
            firstRow ≤ position.row ∧
              (position.row.toNat - firstRow.toNat) * width.toNat + position.col.toNat =
                cursor + promptLength) := by
  refine ⟨{ firstRow, width }, start_of_ne_zero columns firstRow, ?written, ?offset⟩
  case written =>
    intro console prompt text pieces works same here plainPrompt plainText counted whole
    refine ⟨_, console.perform_forM_write works pieces, ?_⟩
    have plain : '\n' ∉ prompt.toList ++ text.toList := by
      rw [List.mem_append]
      exact not_or.mpr ⟨plainPrompt, plainText⟩
    have length : (prompt.toList ++ text.toList).length = text.length + prompt.length := by
      rw [List.length_append, String.length_toList, String.length_toList, Nat.add_comm]
    have placed := Script.cursor_recordAll_write_of_start (same ▸ columns) here plain whole
    rw [Nat.add_comm] at counted
    rw [cursorPosition_eq_place_of_le _ counted, ← length, ← same]
    exact placed
  case offset =>
    intro cursor promptLength position
    have positive := Screen.toNat_pos columns
    have col : position.col.toNat = min (cursor + promptLength) maxOffset % width.toNat :=
      toNat_col_cursorPosition columns cursor promptLength
    have row : position.row.toNat =
        min (firstRow.toNat + min (cursor + promptLength) maxOffset / width.toNat) 65535 :=
      toNat_row_cursorPosition _ cursor promptLength
    constructor
    · rw [UInt16.lt_iff_toNat_lt, col]
      exact Nat.mod_lt _ positive
    · intro counted fits
      rw [Nat.min_eq_left counted] at row col
      rw [Nat.min_eq_left fits] at row
      rw [UInt16.le_iff_toNat_le, row, col, Nat.add_sub_cancel_left]
      exact ⟨Nat.le_add_right _ _, Nat.div_add_mod' _ _⟩

/-- On three columns, from the last row but one, six characters in four pieces fill two rows
exactly, and the cursor is taken to be in the last row. -/
theorem cursorPosition_eq_written_exact :
    let script : Script := { inputs := [], width := 3, cursor := { col := 0, row := 65534 } }
    let console : Console Script := { editor := .standard, stage := { terminal := script } }
    (3 : UInt16) ≠ 0 ∧ script.writeFailure? = none ∧ '\n' ∉ "> ".toList ∧ '\n' ∉ "wxyz".toList ∧
      ∃ geometry written, start 65534 3 = .ok geometry ∧
        console.perform Script.terminal
            (forM ["> ", "w", "xy", "z"] fun piece => Editing.call (.write piece)) =
          (.ok (), written) ∧
        written.stage.terminal.cursor = geometry.cursorPosition 4 2 ∧
        geometry.cursorPosition 4 2 = { col := 0, row := 65535 } := by
  intro script console
  obtain ⟨geometry, started, agree, -⟩ := cursorPosition_eq_written 65534 3 (by decide)
  obtain rfl : { firstRow := 65534, width := 3 } = geometry := Except.ok.inj started
  obtain ⟨written, performed, cursor⟩ := agree console "> " "wxyz" ["> ", "w", "xy", "z"] rfl rfl rfl
    (by decide) (by decide) (by decide) (by decide)
  exact ⟨by decide, rfl, by decide, by decide, _, written, started, performed, cursor, by decide⟩

end Geometry

end PromptLine
