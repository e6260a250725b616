import PromptLine.Proofs.Editor.Keeping
import PromptLine.Proofs.Session.Failure

/-!
# What is shown before a key is waited for

A terminal may hold back what it is given until it is flushed. A session never waits for a key, and
never comes to an outcome, while something is held back (`PromptLine.Console.showsOutput_readLine`):
between anything that it puts on the screen and the next read there is a flush, and so there is
between the last of it and the end.

A session is made of reads and of operations that read no keys and, if they succeed, flush at their
end (`PromptLine.Exchange.Tidy`). What precedes a read or an end is always such an operation.
-/

namespace PromptLine

namespace Exchange

/-- Something was put on the screen, or the cursor was moved. -/
def IsOutput (exchange : Exchange) : Prop :=
  (exchange.call.kind = .write ∨ exchange.call.kind = .writeLine ∨ exchange.call.kind = .move) ∧
    exchange.failure? = none

/-- A key is waited for. -/
def IsRead (exchange : Exchange) : Prop := exchange.call.kind = .readKey

/-- Everything that was held back is shown. -/
def IsFlush (exchange : Exchange) : Prop :=
  exchange.call.kind = .flush ∧ exchange.failure? = none

/-- **Nothing is held back** by an operation that made these calls while it waits for a key, nor
when it has succeeded. -/
structure ShowsOutput {α : Type} (exchanges : List Exchange) (result : Except TerminalError α) :
    Prop where
  beforeRead : ∀ before output between read after,
    exchanges = before ++ output :: (between ++ read :: after) → output.IsOutput → read.IsRead →
      ∃ flush ∈ between, flush.IsFlush
  atEnd : ∀ value, result = .ok value → ∀ before output after,
    exchanges = before ++ output :: after → output.IsOutput → ∃ flush ∈ after, flush.IsFlush

/-- No key is waited for, and if the operation succeeds, it flushes at its end. -/
structure Tidy {α : Type} (exchanges : List Exchange) (result : Except TerminalError α) :
    Prop where
  reads : ∀ exchange ∈ exchanges, ¬ exchange.IsRead
  flushes : ∀ value, result = .ok value → ∃ earlier flush,
    exchanges = earlier ++ [flush] ∧ flush.IsFlush

variable {α β : Type} {first second : List Exchange} {value : α} {result : Except TerminalError β}

/-- A flush is no output. -/
theorem IsFlush.not_isOutput {exchange : Exchange} (flush : exchange.IsFlush) :
    ¬ exchange.IsOutput := by
  rintro ⟨write | writeLine | move, -⟩
  · cases flush.1.symm.trans write
  · cases flush.1.symm.trans writeLine
  · cases flush.1.symm.trans move

/-- A call that puts nothing on the screen leaves nothing to be shown. -/
theorem showsOutput_singleton {exchange : Exchange} (silent : ¬ exchange.IsOutput) :
    ShowsOutput [exchange] result := by
  have absent {before after : List Exchange} {output : Exchange}
      (split : [exchange] = before ++ output :: after) : ¬ output.IsOutput := by
    rcases List.append_eq_singleton_iff.mp split.symm with ⟨-, same⟩ | ⟨-, none⟩
    · obtain ⟨rfl, -⟩ := List.cons.inj same
      exact silent
    · cases none
  exact ⟨fun _ _ _ _ _ split shown _ => absurd shown (absent split),
    fun _ _ _ _ _ split shown => absurd shown (absent split)⟩

/-- Where there are no calls, nothing is held back. -/
theorem showsOutput_nil : ShowsOutput [] result := by
  have absent {before after : List Exchange} {output : Exchange}
      (split : [] = before ++ output :: after) : False := by
    simp at split
  exact ⟨fun _ _ _ _ _ split => (absent split).elim, fun _ _ _ _ _ split => (absent split).elim⟩

/-- An operation that goes on after one that holds nothing back holds nothing back, if the rest of
it does not. -/
theorem ShowsOutput.append (shows : ShowsOutput first (.ok value))
    (further : ShowsOutput second result) : ShowsOutput (first ++ second) result := by
  constructor
  · intro before output between read after split put waits
    rcases List.append_eq_append_iff.mp split with ⟨middle, -, tail⟩ | ⟨middle, front, tail⟩
    · exact further.beforeRead middle output between read after tail put waits
    cases middle with
    | nil => exact further.beforeRead [] output between read after tail.symm put waits
    | cons head middle =>
      obtain ⟨rfl, rest⟩ := List.cons.inj tail
      obtain ⟨flush, member, flushes⟩ := shows.atEnd value rfl before output middle front put
      rcases List.append_eq_append_iff.mp rest with ⟨more, early, late⟩ | ⟨more, early, -⟩
      · cases more with
        | nil =>
          rw [List.append_nil] at early
          exact ⟨flush, early ▸ member, flushes⟩
        | cons head more =>
          obtain ⟨rfl, -⟩ := List.cons.inj late
          exact shows.beforeRead before output between read more (early ▸ front) put waits
      · exact ⟨flush, early ▸ List.mem_append_left _ member, flushes⟩
  · intro last done before output after split put
    rcases List.append_eq_append_iff.mp split with ⟨middle, -, tail⟩ | ⟨middle, front, tail⟩
    · exact further.atEnd last done middle output after tail put
    cases middle with
    | nil => exact further.atEnd last done [] output after tail.symm put
    | cons head middle =>
      obtain ⟨rfl, rest⟩ := List.cons.inj tail
      obtain ⟨flush, member, flushes⟩ := shows.atEnd value rfl before output middle front put
      exact ⟨flush, rest ▸ List.mem_append_left _ member, flushes⟩

/-- A tidy operation holds nothing back. -/
theorem Tidy.showsOutput (tidy : Tidy first result) : ShowsOutput first result := by
  constructor
  · intro before output between read after split _ waits
    exact absurd waits (tidy.reads read (by simp [split]))
  · intro last done before output after split put
    obtain ⟨earlier, flush, ends, flushes⟩ := tidy.flushes last done
    have other : output ≠ flush := fun same => flushes.not_isOutput (same ▸ put)
    rcases List.append_eq_append_iff.mp (ends.symm.trans split) with
      ⟨middle, -, tail⟩ | ⟨middle, -, tail⟩
    · rcases List.append_eq_singleton_iff.mp tail.symm with ⟨-, same⟩ | ⟨-, none⟩
      · exact absurd (List.cons.inj same).1 other
      · cases none
    · cases middle with
      | nil => exact absurd (List.cons.inj tail).1 other
      | cons head middle =>
        obtain ⟨-, rest⟩ := List.cons.inj tail
        exact ⟨flush, by simp [rest], flushes⟩

end Exchange

namespace Editing

variable {α β : Type}

/-- Whatever the terminal answers, the operation holds nothing back. -/
def ShowsOutput (operation : Editing α) (editor : Editor) : Prop :=
  operation.Ensures editor fun course result _ =>
    Exchange.ShowsOutput (Moment.exchanges course) result

/-- Whatever the terminal answers, the operation waits for no key, and flushes at its end. -/
def Tidies (operation : Editing α) (editor : Editor) : Prop :=
  operation.Ensures editor fun course result _ => Exchange.Tidy (Moment.exchanges course) result

/-- Whatever happens, it is not that a key is waited for. -/
def Waitless : Moment → Prop
  | .answered exchange => ¬ exchange.IsRead
  | .noted _ => True

/-- Nothing is asked of the terminal. -/
def Unasked : Moment → Prop
  | .answered _ => False
  | .noted _ => True

/-- Painting and keys wait for no further key. -/
theorem permits_waitless : Permits (fun _ => True) Waitless where
  width _ := nofun
  cursorRow _ := nofun
  flush _ := nofun
  moves _ _ := nofun
  writes _ _ _ _ := nofun
  repaints _ _ _ _ := trivial
  notes _ := trivial
  handled _ _ _ := trivial

namespace ShowsOutput
variable {operation : Editing α} {rest : α → Editing β} {editor : Editor}

/-- Two operations in a row hold nothing back if neither does. -/
theorem bind (first : operation.ShowsOutput editor)
    (second : ∀ value after, (rest value).ShowsOutput after) :
    (operation >>= rest).ShowsOutput editor := by
  unfold ShowsOutput
  rw [ensures_bind]
  refine first.mono ?_
  rintro course (failure | value) after shows
  · exact ⟨shows.beforeRead, nofun⟩
  · refine (second value after).mono ?_
    intro more result last further
    rw [Moment.exchanges_append]
    exact shows.append further

theorem get_bind {rest : Editor → Editing β} (second : (rest editor).ShowsOutput editor) :
    (get >>= rest).ShowsOutput editor :=
  ensures_get_bind.mpr second

theorem pure (value : α) : (Pure.pure value : Editing α).ShowsOutput editor :=
  Exchange.showsOutput_nil

theorem map {change : α → β} (shows : operation.ShowsOutput editor) :
    (change <$> operation).ShowsOutput editor := by
  rw [map_eq_pure_bind]
  exact shows.bind fun value _ => .pure _

end ShowsOutput

namespace Tidies
variable {operation : Editing α} {rest : α → Editing β} {editor : Editor}

/-- What ends with everything shown holds nothing back. -/
theorem showsOutput (tidies : operation.Tidies editor) : operation.ShowsOutput editor :=
  tidies.mono fun _ _ _ tidy => tidy.showsOutput

/-- A flush shows everything. -/
theorem flush : (call .flush).Tidies editor := by
  rintro (failure | _)
  · exact ⟨List.forall_mem_singleton.mpr nofun, nofun⟩
  · exact ⟨List.forall_mem_singleton.mpr nofun, fun _ _ => ⟨[], _, rfl, rfl, rfl⟩⟩

theorem get_bind {rest : Editor → Editing β} (second : (rest editor).Tidies editor) :
    (get >>= rest).Tidies editor :=
  ensures_get_bind.mpr second

/-- A tidy operation may come after one that waits for no key. -/
theorem after (first : KeepsTo (fun _ => True) Waitless operation editor)
    (second : ∀ value after, (rest value).Tidies after) : (operation >>= rest).Tidies editor := by
  unfold Tidies
  rw [ensures_bind]
  refine first.mono ?_
  rintro course (failure | value) after ⟨-, waitless⟩
  all_goals
    have reads : ∀ exchange ∈ Moment.exchanges course, ¬ exchange.IsRead :=
      fun exchange member => waitless _ (Moment.mem_exchanges.mp member)
  · exact ⟨reads, nofun⟩
  · refine (second value after).mono ?_
    intro more result last tidy
    rw [Moment.exchanges_append]
    refine ⟨List.forall_mem_append.mpr ⟨reads, tidy.reads⟩, ?_⟩
    intro value done
    obtain ⟨earlier, flush, ends, flushes⟩ := tidy.flushes value done
    exact ⟨_, flush, by rw [ends, List.append_assoc], flushes⟩

/-- An operation stays tidy if nothing more is asked of the terminal after it. -/
theorem andThen (first : operation.Tidies editor)
    (second : ∀ value after, KeepsTo (fun _ => True) Unasked (rest value) after) :
    (operation >>= rest).Tidies editor := by
  unfold Tidies
  rw [ensures_bind]
  refine first.mono ?_
  rintro course (failure | value) after tidy
  · exact ⟨tidy.reads, nofun⟩
  · refine (second value after).mono ?_
    rintro more result last ⟨-, unasked⟩
    have none : Moment.exchanges more = [] := List.eq_nil_iff_forall_not_mem.mpr
      fun exchange member => unasked _ (Moment.mem_exchanges.mp member)
    rw [Moment.exchanges_append, none, List.append_nil]
    exact ⟨tidy.reads, fun _ _ => tidy.flushes value rfl⟩

end Tidies

/-- Beginning a session ends with everything shown. -/
theorem tidies_begin (prompt : String) (editor : Editor) : (begin prompt).Tidies editor :=
  .after (.modify trivial) fun _ _ =>
    .after (permits_waitless.captureGeometry trivial) fun _ _ =>
      .after (permits_waitless.repaint trivial) fun _ _ => .flush

/-- Responding to a key ends with everything shown. -/
theorem tidies_respond (key : Key) (editor : Editor) : (respond key).Tidies editor :=
  .after (permits_waitless.refreshGeometry trivial) fun _ _ =>
    .after (permits_waitless.handle trivial key) fun _ _ => .flush

/-- Entering a text into the history asks nothing of the terminal. -/
theorem keepsTo_remember (text : String) (editor : Editor) :
    KeepsTo (fun _ => True) Unasked (remember text) editor := by
  unfold remember
  refine .get_bind ?_
  dsimp only
  cases editor.history.evictedBy? text with
  | none => exact .modify trivial
  | some entry => exact .note_bind trivial (.modify trivial)

/-- Entering the line ends with everything shown. -/
theorem tidies_commit (editor : Editor) : commit.Tidies editor := by
  unfold commit
  refine .after (.modify trivial) fun _ _ => ?_
  refine .after (permits_waitless.placeCursor trivial) fun _ _ => ?_
  refine .after (.call (fun _ => nofun) trivial) fun _ _ => ?_
  refine .andThen .flush fun _ editor => ?_
  refine .get_bind ?_
  dsimp only
  split
  · exact .bind (keepsTo_remember _ _) fun _ _ _ =>
      .get_bind (.note_bind trivial (.pure _ trivial))
  · exact .get_bind (.note_bind trivial (.pure _ trivial))

/-- The end of the input ends with everything shown. -/
theorem tidies_abandon (editor : Editor) : abandon.Tidies editor :=
  .get_bind <| .after (.note trivial trivial) fun _ _ =>
    .after (.modify trivial) fun _ _ =>
      .after (.call (fun _ => nofun) trivial) fun _ _ => .andThen .flush fun _ _ => .pure _ trivial

/-- The keys of a session are waited for when everything is shown. -/
theorem showsOutput_handleKeys (keys : Nat) (editor : Editor) :
    (handleKeys keys).ShowsOutput editor := by
  induction keys generalizing editor with
  | zero =>
    unfold handleKeys
    refine .get_bind ?_
    split
    · exact (tidies_commit editor).showsOutput.map
    · exact .pure _
  | succ keys ih =>
    unfold handleKeys
    refine .get_bind ?_
    split
    · exact (tidies_commit editor).showsOutput.map
    have waited : (call (.readKey true)).ShowsOutput editor := fun reply =>
      Exchange.showsOutput_singleton (by simp [Exchange.IsOutput, Call.kind])
    refine waited.bind fun key? after => ?_
    cases key? with
    | none => exact (tidies_abandon after).showsOutput.map
    | some key => exact (tidies_respond key after).showsOutput.bind fun _ after => ih after

end Editing

/-- **Nothing is held back.** Whatever the terminal answers, between anything that a session puts on
the screen and the next key that it waits for there is a flush that succeeds, and there is one
between the last of it and the end of the session, if that is no failure. -/
theorem Console.showsOutput_readLine {σ : Type} (device : Terminal σ) (keys : Nat)
    (prompt : String) (console : Console σ) :
    Exchange.ShowsOutput (Moment.exchanges (console.course device (Editing.readLine keys prompt)))
      (console.perform device (Editing.readLine keys prompt)).1 := by
  suffices shows : (Editing.readLine keys prompt).ShowsOutput console.editor from
    console.perform_of_ensures device shows
  have session : (do Editing.begin prompt; Editing.handleKeys keys).ShowsOutput console.editor :=
    (Editing.tidies_begin prompt console.editor).showsOutput.bind fun _ after =>
      Editing.showsOutput_handleKeys keys after
  unfold Editing.readLine Editing.ShowsOutput
  rw [Editing.ensures_tryCatch]
  refine session.mono ?_
  rintro course (failure | reading) after shows
  · refine ⟨?_, nofun⟩
    rw [Moment.exchanges_append]
    exact (List.append_nil (Moment.exchanges course)).symm ▸ shows.beforeRead
  · exact shows

end PromptLine
