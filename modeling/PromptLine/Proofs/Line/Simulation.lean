import PromptLine.Line.Edit
import PromptLine.Proofs.Editor.Handling
import PromptLine.Proofs.Line.Halves

/-!
# Edits simulated on the halves

Every edit of a line is an edit of its halves (`PromptLine.Halves.edit`), and says of itself what the
halves show: that it changed something, or that it had nowhere to go (`PromptLine.Halves.answer`).
From its start a line keeps in step with its halves, whatever the edits are
(`PromptLine.Line.edits_simulated`), so no edit ever reaches outside the text.
-/

namespace PromptLine

namespace Line.Edit

/-- Whether an edit may have nowhere to go, so that it answers. -/
def answers : Edit → Bool
  | .left | .right | .backspace | .delete => true
  | _ => false

/-- Whether an edit is one of the text and of the cursor alone: the others start the line anew or
mark it as finished. -/
def isOfText : Edit → Bool
  | .start _ | .setFinished _ => false
  | _ => true

end Line.Edit

namespace Halves

/-- The cut at a position, or at the end of the text if that comes first. -/
def cutAt (position : Nat) (halves : Halves) : Halves where
  before := halves.text.take position
  after := halves.text.drop position

/-- **One edit** of the halves. -/
def edit (halves : Halves) : Line.Edit → Halves
  | .start _ => {}
  | .setCursor position => halves.cutAt position
  | .toStart => halves.toStart
  | .toEnd => halves.toEnd
  | .left => halves.left
  | .right => halves.right
  | .insertChar c => halves.insert [c]
  | .insert text => halves.insert text.toList
  | .backspace => halves.backspace
  | .delete => halves.delete
  | .clear => {}
  | .replace text => { before := text.toList }
  | .setFinished _ => halves

/-- Two halves after operations, one after the other. -/
def edits (halves : Halves) (steps : List Line.Edit) : Halves := steps.foldl edit halves

/-- What an edit answers: whether it changes the halves, if it may leave them as they are. -/
def answer (halves : Halves) (one : Line.Edit) : Option Bool :=
  if one.answers then some (decide (halves.edit one ≠ halves)) else none

section Unchanged
variable {halves : Halves}

/-- A move to the left changes nothing just if nothing is before the cursor. -/
theorem left_eq_self_iff : halves.left = halves ↔ halves.before = [] := by
  obtain ⟨before, after⟩ := halves
  rcases List.eq_nil_or_concat before with rfl | ⟨front, c, rfl⟩
  · simp [left]
  · simp [left]

/-- A move to the right changes nothing just if nothing is after the cursor. -/
theorem right_eq_self_iff : halves.right = halves ↔ halves.after = [] := by
  obtain ⟨before, after⟩ := halves
  cases after with
  | nil => simp [right]
  | cons c rest => simp [right]

/-- The backspace key changes nothing just if nothing is before the cursor. -/
theorem backspace_eq_self_iff : halves.backspace = halves ↔ halves.before = [] := by
  obtain ⟨before, after⟩ := halves
  rcases List.eq_nil_or_concat before with rfl | ⟨front, c, rfl⟩
  · simp [backspace]
  · simp [backspace]

/-- The delete key changes nothing just if nothing is after the cursor. -/
theorem delete_eq_self_iff : halves.delete = halves ↔ halves.after = [] := by
  obtain ⟨before, after⟩ := halves
  cases after with
  | nil => simp [delete]
  | cons c rest => simp [delete]

end Unchanged

/-- Characters put in one by one are put in one after the other. -/
theorem edits_insertChar (halves : Halves) (added : List Char) :
    halves.edits (added.map .insertChar) = halves.insert added := by
  induction added generalizing halves with
  | nil => simp [edits, insert]
  | cons c added ih =>
    calc halves.edits ((c :: added).map .insertChar)
        = (halves.insert [c]).edits (added.map .insertChar) := rfl
      _ = (halves.insert [c]).insert added := ih _
      _ = halves.insert (c :: added) := by simp [insert]

end Halves

namespace Line

section Stays
variable {line : Line}

/-- A move to the left is refused just at the start of the line. -/
theorem left?_eq_none_iff : line.left? = none ↔ line.cursor = 0 := by
  simp [left?]

/-- A move to the right is refused just at the end of the line. -/
theorem right?_eq_none_iff : line.right? = none ↔ line.cursor = line.length := by
  simp [right?]

/-- The backspace key is refused just at the start of the line. -/
theorem backspace?_eq_none_iff : line.backspace? = none ↔ line.cursor = 0 := by
  simp [backspace?]

/-- The delete key is refused just at the end of the line. -/
theorem delete?_eq_none_iff : line.delete? = none ↔ line.cursor = line.length := by
  simp [delete?]

/-- An edit that is refused exactly where it would leave the halves as they are answers whether it
changes them. -/
theorem orUnchanged_answer {changed : Option Line} {halves edited : Halves}
    (stays : changed = none ↔ edited = halves) :
    (line.orUnchanged changed).1 = some (decide (edited ≠ halves)) := by
  cases changed with
  | none => simp [orUnchanged, stays.mp rfl]
  | some after =>
    have differs : edited ≠ halves := fun same => by simpa using stays.mpr same
    simp [orUnchanged, differs]

end Stays

namespace Cut
variable {line : Line} {halves : Halves}

/-- Two ways to rewrite a line that lead to the same halves lead to the same line. -/
theorem eq_of_rewrites {origin other : Line} (cut : line.Cut halves) (same : other.Cut halves)
    (rewrites : origin.Rewrites line) (too : origin.Rewrites other) : line = other := by
  rw [rewrites, too, cut.text, cut.cursor, same.text, same.cursor]

/-- The cursor of a line that is cut in two is within the line. -/
theorem cursor_le (cut : line.Cut halves) : line.cursor ≤ line.length := by
  rw [cut.length_eq, cut.cursor]
  exact Nat.le_add_right _ _

/-- The cursor is at the start just if nothing is before it. -/
theorem cursor_eq_zero_iff (cut : line.Cut halves) : line.cursor = 0 ↔ halves.before = [] := by
  rw [cut.cursor, List.length_eq_zero_iff]

/-- The cursor is at the end just if nothing is after it. -/
theorem cursor_eq_length_iff (cut : line.Cut halves) :
    line.cursor = line.length ↔ halves.after = [] := by
  rw [cut.length_eq, cut.cursor, Nat.left_eq_add, List.length_eq_zero_iff]

/-- A cursor that is set cuts the line where it is put. -/
theorem setCursor (cut : line.Cut halves) (position : Nat) :
    (line.setCursor position).Cut (halves.cutAt position) where
  text := by
    rw [Halves.cutAt, List.take_append_drop]
    exact cut.text
  cursor := by
    rw [Halves.cutAt, List.length_take, Halves.text, ← cut.text]
    rfl

/-- **One edit** of a line is the edit of its halves. -/
theorem edit (cut : line.Cut halves) (one : Edit) : (line.edit one).2.Cut (halves.edit one) := by
  cases one with
  | start prompt => exact cut_start prompt
  | setCursor position => exact cut.setCursor position
  | toStart => exact cut.toStart
  | toEnd => exact cut.toEnd
  | left => exact cut.left
  | right => exact cut.right
  | insertChar c => exact cut.insertChar c
  | insert text => exact cut.insert text.toList
  | backspace => exact cut.backspace
  | delete => exact cut.delete
  | clear => exact Cut.clear line
  | replace text => exact Cut.replace line text.toList
  | setFinished finished => exact ⟨cut.text, cut.cursor⟩

/-- A line and its halves stay in step through any operations. -/
theorem edits (cut : line.Cut halves) (steps : List Edit) :
    (line.edits steps).Cut (halves.edits steps) := by
  induction steps generalizing line halves with
  | nil => exact cut
  | cons one later ih => exact ih (cut.edit one)

/-- What an edit answers is seen on the halves. -/
theorem answer (cut : line.Cut halves) (one : Edit) :
    (line.edit one).1 = halves.answer one := by
  cases one with
  | left =>
    exact orUnchanged_answer (left?_eq_none_iff.trans
      (cut.cursor_eq_zero_iff.trans Halves.left_eq_self_iff.symm))
  | right =>
    exact orUnchanged_answer (right?_eq_none_iff.trans
      (cut.cursor_eq_length_iff.trans Halves.right_eq_self_iff.symm))
  | backspace =>
    exact orUnchanged_answer (backspace?_eq_none_iff.trans
      (cut.cursor_eq_zero_iff.trans Halves.backspace_eq_self_iff.symm))
  | delete =>
    exact orUnchanged_answer (delete?_eq_none_iff.trans
      (cut.cursor_eq_length_iff.trans Halves.delete_eq_self_iff.symm))
  | _ => rfl

end Cut

section Rewriting
variable {line : Line}

/-- A line that is rewritten twice is rewritten. -/
theorem Rewrites.trans {between after : Line} (first : line.Rewrites between)
    (second : between.Rewrites after) : line.Rewrites after := by
  rw [Rewrites, second, first]

/-- An edit of the text leaves the prompt, and does not finish the line. -/
theorem rewrites_edit {one : Edit} (ofText : one.isOfText) : line.Rewrites (line.edit one).2 := by
  have optional {changed : Option Line}
      (rewrites : ∀ next, changed = some next → line.Rewrites next) :
      line.Rewrites (line.orUnchanged changed).2 := by
    cases changed with
    | none => exact rfl
    | some next => exact rewrites next rfl
  cases one with
  | start | setFinished => exact absurd ofText Bool.false_ne_true
  | left => exact optional fun _ => rewrites_of_left?
  | right => exact optional fun _ => rewrites_of_right?
  | backspace => exact optional fun _ => rewrites_of_backspace?
  | delete => exact optional fun _ => rewrites_of_delete?
  | _ => exact rfl

/-- Operations on the text rewrite the line. -/
theorem rewrites_edits {steps : List Edit} (ofText : ∀ one ∈ steps, one.isOfText) :
    line.Rewrites (line.edits steps) := by
  induction steps generalizing line with
  | nil => exact rfl
  | cons one later ih =>
    obtain ⟨first, others⟩ := List.forall_mem_cons.mp ofText
    exact (rewrites_edit first).trans (ih others)

/-- A text put in at once is its characters put in one by one. -/
theorem Cut.insert_eq_edits {halves : Halves} (cut : line.Cut halves) (added : List Char) :
    line.insert added = line.edits (added.map .insertChar) := by
  have oneByOne : (line.edits (added.map .insertChar)).Cut (halves.insert added) :=
    halves.edits_insertChar added ▸ cut.edits _
  refine (cut.insert added).eq_of_rewrites oneByOne rfl (rewrites_edits ?_)
  intro one among
  obtain ⟨c, -, rfl⟩ := List.mem_map.mp among
  rfl

end Rewriting

/-- **An edit stays in the text**: what it puts in goes before, between or after the characters of
the text, and what it takes out, if anything, is one of them. -/
def Edit.Within (line : Line) : Edit → Prop
  | .insertChar _ | .insert _ => line.cursor ≤ line.length
  | .backspace => line.backspace?.isSome → line.cursor - 1 < line.length
  | .delete => line.delete?.isSome → line.cursor < line.length
  | _ => True

/-- **A line simulated by its halves**, in what it holds and in whatever is done to it next. -/
structure Simulated (line : Line) (halves : Halves) : Prop where
  cut : line.Cut halves
  edit : ∀ one, (line.edit one).2.Cut (halves.edit one)
  answer : ∀ one, (line.edit one).1 = halves.answer one
  cursor_le : line.cursor ≤ line.length
  within : ∀ one : Edit, one.Within line
  insert : ∀ text : String,
    (line.edit (.insert text)).2 = line.edits (text.toList.map .insertChar)
  /-- The cursor moves by as much as the text grows. -/
  shift : ∀ text : String, (line.edit (.insert text)).2.cursor =
    line.cursor + ((line.edit (.insert text)).2.length - line.length)

namespace Cut
variable {line : Line} {halves : Halves}

/-- No edit reaches outside a line that is cut by its cursor. -/
theorem within (cut : line.Cut halves) (one : Edit) : one.Within line := by
  have inside := cut.cursor_le
  cases one with
  | insertChar | insert => exact inside
  | backspace =>
    intro shorter
    have inner : line.cursor ≠ 0 := fun start => by
      simp [backspace?_eq_none_iff.mpr start] at shorter
    omega
  | delete =>
    intro shorter
    have inner : line.cursor ≠ line.length := fun stop => by
      simp [delete?_eq_none_iff.mpr stop] at shorter
    exact Nat.lt_of_le_of_ne inside inner
  | _ => trivial

/-- A line that is cut in two is simulated by its halves. -/
theorem simulated (cut : line.Cut halves) : line.Simulated halves where
  cut := cut
  edit := cut.edit
  answer := cut.answer
  cursor_le := cut.cursor_le
  within := cut.within
  insert text := cut.insert_eq_edits text.toList
  shift text := by
    have grown := (cut.insert text.toList).length_eq
    have length := cut.length_eq
    have shifted : (line.insert text.toList).cursor = line.cursor + text.toList.length := rfl
    simp only [Halves.insert, List.length_append] at grown
    change (line.insert text.toList).cursor =
      line.cursor + ((line.insert text.toList).length - line.length)
    omega

end Cut

/-- **Edits are simulated on the halves.** Whatever was there before a line was started and whatever
is done to it then, it is cut as the same edits cut its halves; each further edit of the line is
that of the halves and answers whether these change, the cursor is in the text and so is the place
of every edit, and a text put in at once is its characters put in one by one. Edits of the text
leave the prompt as it was, its length too, and do not finish the line. -/
theorem edits_simulated (origin : Line) (prompt : String) (steps : List Edit) :
    let line := (origin.edit (.start prompt)).2.edits steps
    line.Simulated (Halves.edits {} steps) ∧
      ((∀ one ∈ steps, one.isOfText) →
        line.prompt = prompt ∧ line.promptLength = prompt.toList.length ∧
          line.finished = false) := by
  intro line
  have cut : line.Cut (Halves.edits {} steps) := (cut_start prompt).edits steps
  refine ⟨cut.simulated, ?frame⟩
  case frame =>
    intro ofText
    have rewrites : (Line.start prompt).Rewrites line := rewrites_edits ofText
    refine ⟨rewrites.prompt_eq, ?_, rewrites.finished_eq⟩
    rw [promptLength, rewrites.prompt_eq, String.length_toList]
    rfl

/-- Two steps back in a finished line that was started anew, and a character taken out there. -/
theorem edits_simulated_round :
    let steps : List Edit := [.insert "abc", .left, .left, .backspace, .toEnd]
    let line := ((Line.start "old").finish.edit (.start "> ")).2.edits steps
    (∀ one ∈ steps, one.isOfText) ∧
      line.Cut { before := ['b', 'c'] } ∧ (line.edit .right).1 = some false ∧
      line.prompt = "> " ∧ line.promptLength = 2 ∧ line.finished = false := by
  intro steps line
  have ofText : ∀ one ∈ steps, one.isOfText := by decide
  obtain ⟨simulated, frame⟩ := edits_simulated (Line.start "old").finish "> " steps
  obtain ⟨prompt, length, finished⟩ := frame ofText
  exact ⟨ofText, simulated.cut, simulated.answer .right, prompt, length, finished⟩

end Line

end PromptLine
