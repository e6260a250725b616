import PromptLine.Proofs.Console.Performing
import PromptLine.Proofs.Geometry.Wrapping

/-!
# What is made of a change of the width

When the width has changed, the line is taken to start as many rows above the cursor as the offset of
the cursor fills. That is an estimate: the first row is not above the top of the screen, and numbers
of rows are cut off at the largest one. Still the offset goes to the row that the terminal said, or as
far down as it has to (`PromptLine.Geometry.toNat_row_resized`), because the rows that are taken off
for the start of the line are put on again for its cursor.

A geometry that is in use has columns, whatever its terminals say, since a width of zero is refused
before it is taken over (`PromptLine.Geometry.InUse.width_ne_zero`).
-/

namespace PromptLine

/-- A conversation goes on with the answer to its first call, if that succeeds. -/
theorem Talk.play_call_bind {σ α : Type} (device : Terminal σ) (call : Call)
    (rest : call.Reply → Talk α) (stage : Stage σ) :
    (Talk.call call >>= rest).play device stage =
      let answer := device.answer call stage.terminal
      let next : Stage σ :=
        { terminal := answer.terminal, events := stage.events ++ answer.events }
      match answer.reply with
      | .ok value => (rest value).play device next
      | .error failure => (.error failure, next) := by
  change Dialogue.play device
    (ExceptT.bindCont rest (device.answer call stage.terminal).reply) _ = _
  rcases device.answer call stage.terminal with ⟨failure | value, terminal, events⟩
  · rfl
  · rfl

namespace Console

variable {σ α : Type}

/-- A conversation changes nothing but the stage. -/
theorem perform_talk (device : Terminal σ) (console : Console σ) (conversation : Talk α) :
    console.perform device (Editing.talk conversation) =
      let played := conversation.play device console.stage
      (played.1, { console with stage := played.2 }) := by
  rw [perform_eq, Editing.dialogue_talk, Dialogue.play_bind]
  rfl

end Console

namespace Geometry

variable {σ : Type}

/-- **A refresh** of a geometry: whether the width had changed, and the geometry that is used from
then on. -/
def refresh (device : Terminal σ) (offset : Nat) (stage : Stage σ) (geometry : Geometry) :
    Except TerminalError Bool × Geometry :=
  match ((geometry.refreshed offset).play device stage).1 with
  | .ok (some resized) => (.ok true, resized)
  | .ok none => (.ok false, geometry)
  | .error failure => (.error failure, geometry)

/-- The geometry for another width, if the cursor has an offset and is in a row. -/
def resized (row : UInt16) (offset : Nat) (width : UInt16) (geometry : Geometry) : Geometry :=
  { geometry with width, firstRow := firstRowOf row offset width }

/-- What a refresh comes to depends on at most two answers. -/
theorem refresh_eq (device : Terminal σ) (offset : Nat) (stage : Stage σ) (geometry : Geometry) :
    geometry.refresh device offset stage =
      match (device.answer .width stage.terminal).reply with
      | .error failure => (.error failure, geometry)
      | .ok width =>
        if width = geometry.width then (.ok false, geometry)
        else if width = 0 then (.error .zeroWidth, geometry)
        else match
            (device.answer .cursorRow (device.answer .width stage.terminal).terminal).reply with
          | .error failure => (.error failure, geometry)
          | .ok row => (.ok true, geometry.resized row offset width) := by
  unfold refresh refreshed
  rw [Talk.play_call_bind]
  rcases device.answer .width stage.terminal with ⟨failure | width, terminal, events⟩
  · rfl
  dsimp only
  by_cases same : width = geometry.width
  · rw [if_pos same, if_pos same]
    rfl
  by_cases zero : width = 0
  · rw [if_neg same, if_neg same, if_pos zero, if_pos zero]
    rfl
  rw [if_neg same, if_neg same, if_neg zero, if_neg zero, Talk.play_call_bind]
  rcases device.answer .cursorRow terminal with ⟨failure | row, terminal, events⟩
  · rfl
  · rfl

section Answers
variable {device : Terminal σ} {stage : Stage σ} (geometry : Geometry) (offset : Nat)

/-- When the width cannot be learnt, the line stands where it stood. -/
theorem refresh_of_width_eq_error {failure : TerminalError}
    (failed : (device.answer .width stage.terminal).reply = .error failure) :
    geometry.refresh device offset stage = (.error failure, geometry) := by
  rw [refresh_eq, failed]

/-- When the width is the one that is known, nothing is asked any more. -/
theorem refresh_of_width_eq {width : UInt16}
    (learned : (device.answer .width stage.terminal).reply = .ok width)
    (same : width = geometry.width) :
    geometry.refresh device offset stage = (.ok false, geometry) := by
  rw [refresh_eq, learned]
  exact if_pos same

/-- A terminal without columns is an error, and the line stands where it stood. -/
theorem refresh_of_width_eq_zero (columns : geometry.width ≠ 0)
    (learned : (device.answer .width stage.terminal).reply = .ok 0) :
    geometry.refresh device offset stage = (.error .zeroWidth, geometry) := by
  rw [refresh_eq, learned]
  exact (if_neg columns.symm).trans (if_pos rfl)

variable {width : UInt16}
  (learned : (device.answer .width stage.terminal).reply = .ok width) (positive : width ≠ 0)
  (other : width ≠ geometry.width)
include learned positive other

/-- When the row of the cursor cannot be learnt, the line stands where it stood. -/
theorem refresh_of_cursorRow_eq_error {failure : TerminalError}
    (failed : (device.answer .cursorRow (device.answer .width stage.terminal).terminal).reply =
      .error failure) :
    geometry.refresh device offset stage = (.error failure, geometry) := by
  rw [refresh_eq, failed, learned]
  exact (if_neg other).trans (if_neg positive)

/-- With a new width and the row of the cursor, the first row is found anew. -/
theorem refresh_of_cursorRow_eq {row : UInt16}
    (located : (device.answer .cursorRow (device.answer .width stage.terminal).terminal).reply =
      .ok row) :
    geometry.refresh device offset stage = (.ok true, geometry.resized row offset width) := by
  rw [refresh_eq, located, learned]
  exact (if_neg other).trans (if_neg positive)

end Answers

/-! ### The place after a change of the width -/

/-- The first row is as many rows up as the cursor is down, if there are so many. -/
theorem toNat_firstRowOf (row : UInt16) (offset : Nat) (width : UInt16) :
    (firstRowOf row offset width).toNat = row.toNat - min (offset / width.toNat) 65535 := by
  have bounded : row.toNat < 65536 := row.toNat_lt
  unfold firstRowOf
  rw [toNat_ofNatClamp, toNat_ofNatClamp]
  generalize offset / width.toNat = rows
  omega

section Resized
variable (geometry : Geometry) (row : UInt16) {width : UInt16} {offset cursor promptLength : Nat}
  (same : min (cursor + promptLength) maxOffset = offset)
include same

/-- The cursor is in the column that the remainder of its offset gives. -/
theorem toNat_col_resized (columns : width ≠ 0) :
    ((geometry.resized row offset width).cursorPosition cursor promptLength).col.toNat =
      offset % width.toNat := by
  rw [toNat_col_cursorPosition columns, same]
  rfl

/-- **The cursor stays in its row**, unless the offset fills more rows than are above it. -/
theorem toNat_row_resized :
    ((geometry.resized row offset width).cursorPosition cursor promptLength).row.toNat =
      min 65535 (max row.toNat (offset / width.toNat)) := by
  have bounded : row.toNat < 65536 := row.toNat_lt
  rw [toNat_row_cursorPosition, same]
  change min ((firstRowOf row offset width).toNat + offset / width.toNat) 65535 = _
  rw [toNat_firstRowOf]
  generalize offset / width.toNat = rows
  omega

end Resized

/-! ### Geometries in use -/

/-- **A geometry in use**: it was started, for a row and a width or on a terminal, and since then
refreshed any number of times, on any terminals, and painted with. -/
inductive InUse : Geometry → Prop where
  | started {firstRow width : UInt16} {geometry : Geometry}
      (started : start firstRow width = .ok geometry) : InUse geometry
  | captured {σ : Type} {device : Terminal σ} {stage : Stage σ} {geometry : Geometry}
      (captured : (capture.play device stage).1 = .ok geometry) : InUse geometry
  | refreshed {σ : Type} (device : Terminal σ) (offset : Nat) (stage : Stage σ)
      {geometry : Geometry} (earlier : InUse geometry) :
      InUse (geometry.refresh device offset stage).2
  | painted (printed : Nat) {geometry : Geometry} (earlier : InUse geometry) :
      InUse (geometry.recordPaint printed).2

/-- A line never starts on a screen without columns. -/
theorem width_ne_zero_of_start {firstRow width : UInt16} {geometry : Geometry}
    (started : start firstRow width = .ok geometry) : geometry.width ≠ 0 := by
  unfold start at started
  split at started <;> rename_i columns
  · cases started
  · cases started
    exact columns

/-- A geometry that was learnt from a terminal has columns. -/
theorem width_ne_zero_of_capture {device : Terminal σ} {stage : Stage σ} {geometry : Geometry}
    (captured : (capture.play device stage).1 = .ok geometry) : geometry.width ≠ 0 := by
  unfold capture at captured
  rw [Talk.play_call_bind] at captured
  generalize device.answer .width stage.terminal = asked at captured
  rcases asked with ⟨failure | width, terminal, events⟩
  · cases captured
  dsimp only at captured
  rw [Talk.play_call_bind] at captured
  generalize device.answer .cursorRow terminal = asked at captured
  rcases asked with ⟨failure | firstRow, terminal, events⟩
  · cases captured
  · exact width_ne_zero_of_start captured

/-- A refresh leaves the geometry as it is, or it takes a width over that is not zero. -/
theorem refresh_cases (device : Terminal σ) (offset : Nat) (stage : Stage σ) (geometry : Geometry) :
    (geometry.refresh device offset stage).2 = geometry ∨
      ∃ row width, width ≠ 0 ∧
        (geometry.refresh device offset stage).2 = geometry.resized row offset width := by
  rw [refresh_eq]
  rcases device.answer .width stage.terminal with ⟨failure | width, terminal, events⟩
  · exact Or.inl rfl
  dsimp only
  by_cases same : width = geometry.width
  · rw [if_pos same]
    exact Or.inl rfl
  by_cases zero : width = 0
  · rw [if_neg same, if_pos zero]
    exact Or.inl rfl
  rw [if_neg same, if_neg zero]
  rcases (device.answer .cursorRow terminal).reply with failure | row
  · exact Or.inl rfl
  · exact Or.inr ⟨row, width, zero, rfl⟩

/-- **A geometry in use has columns**, so a width that is divided by is not zero. -/
theorem InUse.width_ne_zero {geometry : Geometry} (used : geometry.InUse) : geometry.width ≠ 0 := by
  induction used with
  | started started => exact width_ne_zero_of_start started
  | captured captured => exact width_ne_zero_of_capture captured
  | @refreshed σ device offset stage geometry earlier ih =>
    rcases refresh_cases device offset stage geometry with same | ⟨row, width, columns, same⟩
    · rw [same]
      exact ih
    · rw [same]
      exact columns
  | painted printed earlier ih => exact ih

end Geometry

/-- The editor takes over what a refresh leaves, and nothing else changes in it. That holds even if
the cursor cannot be put into its new place afterwards. -/
theorem Console.editor_refreshGeometry {σ : Type} (device : Terminal σ) (console : Console σ)
    {geometry : Geometry} (located : console.editor.geometry = some geometry) :
    (console.perform device Editing.refreshGeometry).2.editor = { console.editor with
      geometry := some (geometry.refresh device console.editor.line.cursorOffset console.stage).2 } := by
  have still : { console.editor with geometry := some geometry } = console.editor := by
    rw [← located]
  unfold Editing.refreshGeometry Geometry.refresh
  rw [perform_get_bind, located, perform_bind, perform_talk]
  dsimp only
  rcases (geometry.refreshed console.editor.line.cursorOffset).play device console.stage with
    ⟨failure | _ | resized, stage⟩
  · exact still.symm
  · exact still.symm
  · dsimp only
    rw [perform_bind_of_ok (perform_set ..)]
    exact perform_of_ensures device _ (Editing.ensures_placeCursor _)

namespace Geometry

variable {σ : Type}

/-- **The estimate after a change of the width.** A geometry in use has columns. A refresh that
cannot learn the width, or the row of the cursor when it needs that, fails as the terminal did and
leaves the geometry as it is, and so does one that learns that there are no columns. A refresh that
learns the width of the geometry says that nothing has changed, and nothing does. One that learns
another width takes it over: the offset that it was made for then goes to the column that its
remainder gives, and stays in the row that the terminal said unless it fills more rows than are
above that one; and as long as the terminal says that width, a refresh finds nothing more to change.
An editor takes over what a refresh leaves. -/
theorem InUse.refresh_estimates {geometry : Geometry} (used : geometry.InUse) (device : Terminal σ)
    (offset : Nat) (stage : Stage σ) :
    geometry.width ≠ 0 ∧
      let width? := device.answer .width stage.terminal
      let outcome := geometry.refresh device offset stage
      (∀ failure, width?.reply = .error failure → outcome = (.error failure, geometry)) ∧
      (width?.reply = .ok 0 → outcome = (.error .zeroWidth, geometry)) ∧
      (width?.reply = .ok geometry.width → outcome = (.ok false, geometry)) ∧
      (∀ width, width?.reply = .ok width → width ≠ 0 → width ≠ geometry.width →
        let row? := device.answer .cursorRow width?.terminal
        (∀ failure, row?.reply = .error failure → outcome = (.error failure, geometry)) ∧
        ∀ row, row?.reply = .ok row → ∃ resized : Geometry, outcome = (.ok true, resized) ∧
          resized.width = width ∧ resized.maxPrinted = geometry.maxPrinted ∧
          (∀ cursor promptLength, min (cursor + promptLength) maxOffset = offset →
            let position := resized.cursorPosition cursor promptLength
            position.col.toNat = offset % width.toNat ∧
            position.row.toNat = min 65535 (max row.toNat (offset / width.toNat)) ∧
            (offset / width.toNat ≤ row.toNat → position.row = row)) ∧
          ∀ other (again : Stage σ), (device.answer .width again.terminal).reply = .ok width →
            resized.refresh device other again = (.ok false, resized)) ∧
      ∀ editor : Editor, editor.geometry = some geometry → editor.line.cursorOffset = offset →
        (Console.perform device Editing.refreshGeometry { editor, stage }).2.editor =
          { editor with geometry := some outcome.2 } := by
  have columns := used.width_ne_zero
  refine ⟨columns, ?_⟩
  intro width? outcome
  refine ⟨?unknown, ?zero, ?same, ?other, ?editor⟩
  case unknown =>
    intro failure failed
    exact refresh_of_width_eq_error geometry offset failed
  case zero =>
    intro zero
    exact refresh_of_width_eq_zero geometry offset columns zero
  case same =>
    intro same
    exact refresh_of_width_eq geometry offset same rfl
  case other =>
    intro width learned positive other row?
    constructor
    · intro failure failed
      exact refresh_of_cursorRow_eq_error geometry offset learned positive other failed
    intro row located
    refine ⟨geometry.resized row offset width, ?_, rfl, rfl, ?_, ?_⟩
    · exact refresh_of_cursorRow_eq geometry offset learned positive other located
    · intro cursor promptLength counted position
      have place : position.row.toNat = min 65535 (max row.toNat (offset / width.toNat)) :=
        toNat_row_resized geometry row counted
      refine ⟨toNat_col_resized geometry row counted positive, place, ?_⟩
      intro above
      have bounded : row.toNat < 65536 := row.toNat_lt
      apply UInt16.toNat_inj.mp
      rw [place, Nat.max_eq_left above]
      omega
    · intro next again still
      exact refresh_of_width_eq _ next still rfl
  case editor =>
    intro editor located counted
    subst counted
    exact Console.editor_refreshGeometry device { editor, stage } located

/-- On ten columns, with the cursor in the second row, an offset of 25 fills more rows than are
above the cursor, so the line is taken to start at the top and its cursor to be in the third row. -/
theorem InUse.refresh_estimates_top :
    let script : Script := { inputs := [], width := 10, cursor := { col := 0, row := 1 } }
    let stage : Stage Script := { terminal := script }
    let geometry : Geometry := { firstRow := 5, width := 20, maxPrinted := 30 }
    geometry.InUse ∧ (Script.terminal.answer .width script).reply = .ok 10 ∧
      (Script.terminal.answer .cursorRow script).reply = .ok 1 ∧
      ∃ resized : Geometry, geometry.refresh Script.terminal 25 stage = (.ok true, resized) ∧
        resized.cursorPosition 23 2 = { col := 5, row := 2 } ∧
        resized.refresh Script.terminal 7 stage = (.ok false, resized) := by
  intro script stage geometry
  have started : start 5 20 = .ok { firstRow := 5, width := 20 } := rfl
  have used : geometry.InUse := .painted 30 (.started started)
  obtain ⟨-, -, -, -, resizes, -⟩ := used.refresh_estimates Script.terminal 25 stage
  obtain ⟨resized, outcome, width, -, place, still⟩ :=
    (resizes 10 rfl (by decide) (by decide)).2 1 rfl
  obtain ⟨col, row, -⟩ := place 23 2 (by decide)
  refine ⟨used, rfl, rfl, resized, outcome, ?_, still 7 stage rfl⟩
  exact congrArg₂ Position.mk (UInt16.toNat_inj.mp col) (UInt16.toNat_inj.mp row)

end Geometry

end PromptLine
