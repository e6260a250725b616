import Mathlib.Data.List.Basic
import PromptLine.Proofs.Editor.Handling
import PromptLine.Repl
import PromptLine.Terminal.Scripted

/-!
# What becomes of a failure

Reading a line and the loop that echoes lines report their terminal truthfully
(`PromptLine.Console.reports_readLine_run`): a call that fails is the last one that is made, and it
is what the operation fails with; and an operation in which no call fails can only fail because the
terminal said that it has no columns. After that it is asked for the row of its cursor at most.

The proof goes by composition. Up to a failure all calls are fine, and a failure is due to the last
one or two of them (`Exchange.Accounts`); an operation that goes on after another one accounts for
its result if both do. What has to be kept on the way is that a line never stands on a screen without
columns, since a width that is the one already known is not looked at again.
-/

namespace PromptLine

namespace Exchange

/-- Why the call failed, if it did. -/
def failure? (exchange : Exchange) : Option TerminalError :=
  match exchange.reply with
  | .ok _ => none
  | .error failure => some failure

/-- The terminal said that it has no columns. -/
def SaysNoColumns : Exchange → Prop
  | ⟨.width, reply⟩ => reply = .ok 0
  | _ => False

/-- The call succeeded, and the answer to it is no reason to fail. -/
def IsFine (exchange : Exchange) : Prop := exchange.failure? = none ∧ ¬ exchange.SaysNoColumns

/-- **A truthful result.** The result of an operation that made these calls reports what was wrong
with them. -/
structure Reports {α : Type} (exchanges : List Exchange) (result : Except TerminalError α) :
    Prop where
  /-- A call that fails is the last one, and the operation fails as it did. -/
  failed : ∀ before exchange after failure, exchanges = before ++ exchange :: after →
    exchange.failure? = some failure → after = [] ∧ result = .error failure
  /-- If no call fails, the operation fails just if the terminal said that it has no columns. -/
  noColumns : (∀ exchange ∈ exchanges, exchange.failure? = none) → ∀ failure,
    result = .error failure ↔
      failure = .zeroWidth ∧ ∃ exchange ∈ exchanges, exchange.SaysNoColumns
  /-- Once the terminal has said that it has no columns, it is asked for nothing but its row. -/
  silent : ∀ before exchange after, exchanges = before ++ exchange :: after →
    exchange.SaysNoColumns → ∀ later ∈ after, later.call = .cursorRow

/-- The call that failed is the last one, and what it failed with is the result. -/
theorem Reports.of_mem {α : Type} {exchanges : List Exchange} {result : Except TerminalError α}
    (reports : Reports exchanges result) {exchange : Exchange} {failure : TerminalError}
    (made : exchange ∈ exchanges) (fails : exchange.failure? = some failure) :
    (∃ before, exchanges = before ++ [exchange]) ∧ result = .error failure := by
  obtain ⟨before, after, split⟩ := List.append_of_mem made
  obtain ⟨rfl, failed⟩ := reports.failed before exchange after failure split fails
  exact ⟨⟨before, split⟩, failed⟩

/-- All the calls of an operation that succeeds are fine. -/
theorem Reports.isFine {α : Type} {exchanges : List Exchange} {value : α}
    (reports : Reports exchanges (.ok value)) : ∀ exchange ∈ exchanges, exchange.IsFine := by
  have succeed : ∀ exchange ∈ exchanges, exchange.failure? = none := by
    intro exchange made
    cases fails : exchange.failure? with
    | none => rfl
    | some failure => cases (reports.of_mem made fails).2
  intro exchange made
  refine ⟨succeed exchange made, fun zero => ?_⟩
  cases (reports.noColumns succeed .zeroWidth).mpr ⟨rfl, exchange, made, zero⟩

/-- The last calls of an operation that fails, and the failure that they are the reason for. -/
inductive Breaks : List Exchange → TerminalError → Prop where
  /-- A call failed. -/
  | failed {exchange : Exchange} {failure : TerminalError}
      (fails : exchange.failure? = some failure) : Breaks [exchange] failure
  /-- The terminal said that it has no columns. -/
  | noColumns {exchange : Exchange} (zero : exchange.SaysNoColumns) : Breaks [exchange] .zeroWidth
  /-- It was asked for its row before that was looked at. -/
  | noColumnsRow {exchange row : Exchange} (zero : exchange.SaysNoColumns)
      (asked : row.call = .cursorRow) (succeeds : row.failure? = none) :
      Breaks [exchange, row] .zeroWidth
  /-- The question for the row failed. -/
  | noColumnsFailed {exchange row : Exchange} {failure : TerminalError}
      (zero : exchange.SaysNoColumns) (asked : row.call = .cursorRow)
      (fails : row.failure? = some failure) : Breaks [exchange, row] failure

/-- The calls of an operation account for its result: all are fine, but for the last ones of an
operation that failed. -/
def Accounts {α : Type} (exchanges : List Exchange) : Except TerminalError α → Prop
  | .ok _ => ∀ exchange ∈ exchanges, exchange.IsFine
  | .error failure => ∃ fine last, exchanges = fine ++ last ∧
    (∀ exchange ∈ fine, exchange.IsFine) ∧ Breaks last failure

variable {α β : Type}

/-- An operation that goes on after fine calls accounts for its result if the rest of it does. -/
theorem Accounts.append {first second : List Exchange} {result : Except TerminalError α}
    (fine : ∀ exchange ∈ first, exchange.IsFine) (accounts : Accounts second result) :
    Accounts (first ++ second) result := by
  cases result with
  | ok value => exact List.forall_mem_append.mpr ⟨fine, accounts⟩
  | error failure =>
    obtain ⟨more, last, rfl, fineMore, breaks⟩ := accounts
    exact ⟨first ++ more, last, (List.append_assoc ..).symm,
      List.forall_mem_append.mpr ⟨fine, fineMore⟩, breaks⟩

/-- A call accounts for a result that is its answer, unless that says that there are no columns. -/
theorem accounts_singleton (call : Call) (reply : Except TerminalError call.Reply)
    (columns : ¬ SaysNoColumns ⟨call, reply⟩) : Accounts [⟨call, reply⟩] reply := by
  cases reply with
  | ok value =>
    intro exchange member
    rw [List.mem_singleton.mp member]
    exact ⟨rfl, columns⟩
  | error failure => exact ⟨[], _, rfl, List.forall_mem_nil _, .failed rfl⟩

/-- A call that is not fine is among the last ones. -/
theorem split_of_not_isFine {fine last before after : List Exchange} {exchange : Exchange}
    (split : fine ++ last = before ++ exchange :: after)
    (allFine : ∀ other ∈ fine, other.IsFine) (broken : ¬ exchange.IsFine) :
    ∃ middle, last = middle ++ exchange :: after := by
  rcases List.append_eq_append_iff.mp split with ⟨middle, -, tail⟩ | ⟨middle, front, tail⟩
  · exact ⟨middle, tail⟩
  · cases middle with
    | nil => exact ⟨[], tail.symm⟩
    | cons head rest =>
      obtain ⟨rfl, -⟩ := List.cons.inj tail
      have member : exchange ∈ fine := front ▸ List.mem_append_right _ List.mem_cons_self
      exact absurd (allFine exchange member) broken

/-- A call that says that there are no columns has not failed. -/
theorem SaysNoColumns.failure?_eq_none {exchange : Exchange} (zero : exchange.SaysNoColumns) :
    exchange.failure? = none := by
  obtain ⟨call, reply⟩ := exchange
  cases call with
  | width =>
    have answer : reply = .ok 0 := zero
    rw [answer]
    rfl
  | _ => exact zero.elim

/-- Only the width can say that there are no columns. -/
theorem SaysNoColumns.call_eq {exchange : Exchange} (zero : exchange.SaysNoColumns) :
    exchange.call = .width := by
  obtain ⟨call, reply⟩ := exchange
  cases call with
  | width => rfl
  | _ => exact zero.elim

/-- One of two calls is the first, followed by the other, or the second, followed by none. -/
theorem pair_eq_append_cons {first second exchange : Exchange} {middle after : List Exchange}
    (split : [first, second] = middle ++ exchange :: after) :
    first = exchange ∧ after = [second] ∨ second = exchange ∧ after = [] := by
  cases middle with
  | nil =>
    obtain ⟨same, rest⟩ := List.cons.inj split
    exact Or.inl ⟨same, rest.symm⟩
  | cons head tail =>
    have single : tail ++ exchange :: after = [second] := (List.cons.inj split).2.symm
    rcases List.append_eq_singleton_iff.mp single with ⟨-, same⟩ | ⟨-, absent⟩
    · obtain ⟨rfl, rfl⟩ := List.cons.inj same
      exact Or.inr ⟨rfl, rfl⟩
    · cases absent

/-- Whatever stands among the last calls is followed by nothing, or says that there are no columns
and is followed by the question for the row. -/
theorem Breaks.followed {last middle after : List Exchange} {exchange : Exchange}
    {failure : TerminalError} (breaks : Breaks last failure)
    (split : last = middle ++ exchange :: after) :
    (after = [] ∧ ∀ reason, exchange.failure? = some reason → failure = reason) ∨
      exchange.SaysNoColumns ∧ ∃ row, after = [row] ∧ row.call = .cursorRow := by
  cases breaks with
  | failed fails =>
    rcases List.append_eq_singleton_iff.mp split.symm with ⟨-, same⟩ | ⟨-, absent⟩
    · obtain ⟨rfl, rfl⟩ := List.cons.inj same
      exact Or.inl ⟨rfl, fun reason found => Option.some.inj (fails.symm.trans found)⟩
    · cases absent
  | noColumns zero =>
    rcases List.append_eq_singleton_iff.mp split.symm with ⟨-, same⟩ | ⟨-, absent⟩
    · obtain ⟨rfl, rfl⟩ := List.cons.inj same
      refine Or.inl ⟨rfl, fun reason found => ?_⟩
      rw [zero.failure?_eq_none] at found
      cases found
    · cases absent
  | noColumnsRow zero asked succeeds =>
    rcases pair_eq_append_cons split with ⟨rfl, rfl⟩ | ⟨rfl, rfl⟩
    · exact Or.inr ⟨zero, _, rfl, asked⟩
    · refine Or.inl ⟨rfl, fun reason found => ?_⟩
      rw [succeeds] at found
      cases found
  | noColumnsFailed zero asked fails =>
    rcases pair_eq_append_cons split with ⟨rfl, rfl⟩ | ⟨rfl, rfl⟩
    · exact Or.inr ⟨zero, _, rfl, asked⟩
    · exact Or.inl ⟨rfl, fun reason found => Option.some.inj (fails.symm.trans found)⟩

/-- Last calls none of which failed say that there are no columns. -/
theorem Breaks.noColumns_of_forall {last : List Exchange} {failure : TerminalError}
    (breaks : Breaks last failure) (succeed : ∀ exchange ∈ last, exchange.failure? = none) :
    failure = .zeroWidth ∧ ∃ exchange ∈ last, exchange.SaysNoColumns := by
  cases breaks with
  | failed fails =>
    have succeeds := succeed _ List.mem_cons_self
    rw [fails] at succeeds
    cases succeeds
  | noColumns zero => exact ⟨rfl, _, List.mem_cons_self, zero⟩
  | noColumnsRow zero asked succeeds => exact ⟨rfl, _, List.mem_cons_self, zero⟩
  | noColumnsFailed zero asked fails =>
    have succeeds := succeed _ (List.mem_cons_of_mem _ List.mem_cons_self)
    rw [fails] at succeeds
    cases succeeds

/-- Calls that account for a result are reported by it. -/
theorem Accounts.reports {exchanges : List Exchange} {result : Except TerminalError α}
    (accounts : Accounts exchanges result) : Reports exchanges result := by
  cases result with
  | ok value =>
    have fine : ∀ exchange ∈ exchanges, exchange.IsFine := accounts
    refine ⟨?_, ?_, ?_⟩
    · intro before exchange after failure split fails
      have succeeds := (fine exchange (split ▸ List.mem_append_right _ List.mem_cons_self)).1
      rw [fails] at succeeds
      cases succeeds
    · intro _ failure
      constructor
      · intro impossible
        cases impossible
      · rintro ⟨-, exchange, member, zero⟩
        exact absurd zero (fine exchange member).2
    · intro before exchange after split zero
      exact absurd zero (fine exchange (split ▸ List.mem_append_right _ List.mem_cons_self)).2
  | error failure =>
    obtain ⟨fine, last, rfl, allFine, breaks⟩ := accounts
    refine ⟨?_, ?_, ?_⟩
    · intro before exchange after reason split fails
      have broken : ¬ exchange.IsFine := fun isFine => by
        rw [isFine.1] at fails
        cases fails
      obtain ⟨middle, tail⟩ := split_of_not_isFine split allFine broken
      rcases breaks.followed tail with ⟨ended, reasons⟩ | ⟨zero, -⟩
      · exact ⟨ended, congrArg _ (reasons reason fails)⟩
      · rw [zero.failure?_eq_none] at fails
        cases fails
    · intro succeed other
      obtain ⟨rfl, exchange, member, zero⟩ := breaks.noColumns_of_forall fun exchange member =>
        succeed exchange (List.mem_append_right _ member)
      constructor
      · intro same
        exact ⟨(Except.error.inj same).symm, exchange, List.mem_append_right _ member, zero⟩
      · intro given
        rw [given.1]
    · intro before exchange after split zero
      have broken : ¬ exchange.IsFine := fun isFine => isFine.2 zero
      obtain ⟨middle, tail⟩ := split_of_not_isFine split allFine broken
      rcases breaks.followed tail with ⟨rfl, -⟩ | ⟨-, row, rfl, asked⟩
      · exact List.forall_mem_nil _
      · exact List.forall_mem_singleton.mpr asked

end Exchange

/-- The line of an editor does not stand on a screen without columns. -/
def Editor.HasColumns (editor : Editor) : Prop :=
  ∀ geometry, editor.geometry = some geometry → geometry.width ≠ 0

/-- A key does not take the columns away. -/
theorem Editor.HasColumns.handled {editor : Editor} (columns : editor.HasColumns) (key : Key) :
    (editor.handled key).1.HasColumns := by
  rw [editor.handled_eq key]
  exact columns

namespace Editing

variable {α β : Type}

/-- Whatever the terminal answers, the calls of an operation account for its result. -/
def Accounts (operation : Editing α) (editor : Editor) : Prop :=
  operation.Ensures editor fun course result after =>
    Exchange.Accounts (Moment.exchanges course) result ∧
      ∀ value, result = .ok value → after.HasColumns

namespace Accounts
variable {operation : Editing α} {rest : α → Editing β} {editor : Editor}

/-- Two operations in a row account for the result if both do. -/
theorem bind (first : operation.Accounts editor)
    (second : ∀ value after, after.HasColumns → (rest value).Accounts after) :
    (operation >>= rest).Accounts editor := by
  unfold Accounts
  rw [ensures_bind]
  refine first.mono ?_
  intro course result after holds
  cases result with
  | error failure =>
    refine ⟨holds.1, ?_⟩
    intro value impossible
    cases impossible
  | ok value =>
    refine (second value after (holds.2 value rfl)).mono ?_
    intro more result last further
    rw [Moment.exchanges_append]
    exact ⟨.append holds.1 further.1, further.2⟩

theorem get_bind {rest : Editor → Editing β} (second : (rest editor).Accounts editor) :
    (get >>= rest).Accounts editor :=
  ensures_get_bind.mpr second

theorem pure (value : α) (columns : editor.HasColumns) : (Pure.pure value : Editing α).Accounts editor :=
  ⟨List.forall_mem_nil _, fun _ _ => columns⟩

theorem set {next : Editor} (columns : next.HasColumns) :
    (MonadStateOf.set next : Editing Unit).Accounts editor :=
  ⟨List.forall_mem_nil _, fun _ _ => columns⟩

theorem modify {change : Editor → Editor} (columns : (change editor).HasColumns) :
    (MonadState.modifyGet fun editor => ((), change editor) : Editing Unit).Accounts editor :=
  ⟨List.forall_mem_nil _, fun _ _ => columns⟩

theorem note (event : Event) (columns : editor.HasColumns) : (Editing.note event).Accounts editor :=
  ⟨List.forall_mem_nil _, fun _ _ => columns⟩

/-- A call other than the question for the width accounts for its answer. -/
theorem call {c : Call} (other : c ≠ .width) (columns : editor.HasColumns) :
    (Editing.call c).Accounts editor := by
  unfold Accounts
  rw [ensures_call]
  intro reply
  refine ⟨Exchange.accounts_singleton c reply fun zero => other zero.call_eq, ?_⟩
  exact fun _ _ => columns

theorem map {change : α → β} (accounts : operation.Accounts editor) :
    (change <$> operation).Accounts editor := by
  rw [map_eq_pure_bind]
  exact accounts.bind fun value after columns => .pure _ columns

end Accounts

/-- Placing the cursor accounts for its result. -/
theorem accounts_placeCursor {editor : Editor} (columns : editor.HasColumns) :
    placeCursor.Accounts editor := by
  unfold placeCursor
  refine .get_bind ?_
  cases editor.geometry with
  | none => exact .pure _ columns
  | some geometry => exact .call nofun columns

/-- Painting the line accounts for its result. -/
theorem accounts_repaint {editor : Editor} (columns : editor.HasColumns) :
    repaint.Accounts editor := by
  unfold repaint
  refine .get_bind ?_
  cases located : editor.geometry with
  | none => exact .pure _ columns
  | some geometry =>
    refine .bind (.call nofun columns) fun _ _ _ => ?_
    refine .bind (.set ?_) fun _ _ painted => ?_
    · intro found same
      rw [← Option.some.inj same]
      exact columns geometry located
    · exact .bind (.call nofun painted) fun _ _ placed => accounts_placeCursor placed

/-- Whatever has to be painted accounts for its result. -/
theorem accounts_paint {editor : Editor} (changed : Paint) (columns : editor.HasColumns) :
    (paint changed).Accounts editor := by
  cases changed with
  | nothing => exact .pure () columns
  | cursor => exact accounts_placeCursor columns
  | line => exact accounts_repaint columns

/-- Handling a key accounts for its result. -/
theorem accounts_handle (key : Key) {editor : Editor} (columns : editor.HasColumns) :
    (handle key).Accounts editor := by
  unfold Accounts
  rw [ensures_handle]
  exact accounts_paint _ (columns.handled key)

/-- **Finding out where the line starts accounts for its result.** It fails on a terminal without
columns, after the row was asked for too. -/
theorem accounts_captureGeometry (editor : Editor) : captureGeometry.Accounts editor := by
  unfold captureGeometry Accounts
  rw [ensures_bind, ensures_capture]
  -- The row is asked for before the width is looked at, so a width of zero is not the last answer.
  intro width?
  cases width? with
  | error failure => exact ⟨⟨[], _, rfl, List.forall_mem_nil _, .failed rfl⟩, nofun⟩
  | ok width =>
    intro row?
    by_cases zero : width = 0
    · subst zero
      cases row? with
      | error failure =>
        exact ⟨⟨[], _, rfl, List.forall_mem_nil _, .noColumnsFailed rfl rfl rfl⟩, nofun⟩
      | ok row =>
        exact ⟨⟨[], _, rfl, List.forall_mem_nil _, .noColumnsRow rfl rfl rfl⟩, nofun⟩
    · have fine : Exchange.IsFine ⟨.width, .ok width⟩ :=
        ⟨rfl, fun same => zero (Except.ok.inj same)⟩
      cases row? with
      | error failure =>
        exact ⟨⟨[_], _, rfl, List.forall_mem_singleton.mpr fine, .failed rfl⟩, nofun⟩
      | ok row =>
        dsimp only
        rw [Geometry.start, if_neg zero]
        refine ⟨List.forall_mem_cons.mpr ⟨fine, ?_⟩, ?_⟩
        · exact List.forall_mem_singleton.mpr ⟨rfl, fun impossible => impossible⟩
        · intro _ _ geometry found
          rw [← Option.some.inj found]
          exact zero

/-- **Fitting the line to a new width accounts for its result.** On a terminal without columns it
fails at once. -/
theorem accounts_refreshGeometry {editor : Editor} (columns : editor.HasColumns) :
    refreshGeometry.Accounts editor := by
  unfold refreshGeometry
  refine .get_bind ?_
  cases located : editor.geometry with
  | none => exact .pure _ columns
  | some geometry =>
    unfold Accounts
    dsimp only
    rw [ensures_bind, ensures_refreshed]
    intro width?
    cases width? with
    | error failure => exact ⟨⟨[], _, rfl, List.forall_mem_nil _, .failed rfl⟩, nofun⟩
    | ok width =>
      dsimp only
      by_cases zero : width = 0
      · -- A width of zero is a new one, since the width known is not zero.
        have new : width ≠ geometry.width := zero ▸ (columns geometry located).symm
        rw [if_neg new, if_pos zero, zero]
        exact ⟨⟨[], _, rfl, List.forall_mem_nil _, .noColumns rfl⟩, nofun⟩
      have fine : Exchange.IsFine ⟨.width, .ok width⟩ :=
        ⟨rfl, fun same => zero (Except.ok.inj same)⟩
      by_cases same : width = geometry.width
      · rw [if_pos same]
        exact ⟨List.forall_mem_singleton.mpr fine, fun _ _ => columns⟩
      rw [if_neg same, if_neg zero]
      intro row?
      cases row? with
      | error failure =>
        exact ⟨⟨[_], _, rfl, List.forall_mem_singleton.mpr fine, .failed rfl⟩, nofun⟩
      | ok row =>
        dsimp only
        have asked : Exchange.IsFine ⟨.cursorRow, .ok row⟩ :=
          ⟨rfl, fun impossible => impossible⟩
        rw [ensures_bind, ensures_set]
        dsimp only
        refine (accounts_placeCursor ?_).mono ?_
        · intro found refreshed
          rw [← Option.some.inj refreshed]
          exact zero
        · intro course result after holds
          have both : ∀ exchange ∈ [⟨.width, .ok width⟩, ⟨.cursorRow, .ok row⟩],
              Exchange.IsFine exchange :=
            List.forall_mem_cons.mpr ⟨fine, List.forall_mem_singleton.mpr asked⟩
          exact ⟨.append both holds.1, holds.2⟩

/-- Beginning a session accounts for its result. -/
theorem accounts_begin (prompt : String) (editor : Editor) : (begin prompt).Accounts editor := by
  have captured (started : Editor) : (do captureGeometry; repaint; call .flush).Accounts started :=
    .bind (accounts_captureGeometry started) fun _ _ columns =>
      .bind (accounts_repaint columns) fun _ _ columns => .call nofun columns
  unfold begin modifyLine Accounts
  rw [ensures_bind, ensures_modify]
  exact captured _

/-- Responding to a key accounts for its result. -/
theorem accounts_respond (key : Key) {editor : Editor} (columns : editor.HasColumns) :
    (respond key).Accounts editor :=
  .bind (accounts_refreshGeometry columns) fun _ _ columns =>
    .bind (accounts_handle key columns) fun _ _ columns => .call nofun columns

/-- Entering a text into the history accounts for its result. -/
theorem accounts_remember (text : String) {editor : Editor} (columns : editor.HasColumns) :
    (remember text).Accounts editor := by
  unfold remember
  refine .get_bind ?_
  dsimp only
  cases editor.history.evictedBy? text with
  | none => exact .modify columns
  | some entry => exact .bind (.note _ columns) fun _ _ columns => .modify columns

/-- Ending with the line entered accounts for its result. -/
theorem accounts_commit {editor : Editor} (columns : editor.HasColumns) :
    commit.Accounts editor := by
  unfold commit modifyLine
  refine .bind (.modify columns) fun _ _ columns => ?_
  refine .bind (accounts_placeCursor columns) fun _ _ columns => ?_
  refine .bind (.call nofun columns) fun _ _ columns => ?_
  refine .bind (.call nofun columns) fun _ editor columns => ?_
  have announced {last : Editor} (columns : last.HasColumns) :
      (do
        note (.committed editor.line.content.length (← get).history.length)
        pure (Reading.line editor.line.content)).Accounts last :=
    .get_bind (.bind (.note _ columns) fun _ _ columns => .pure _ columns)
  refine .get_bind ?_
  dsimp only
  split
  · exact .bind (accounts_remember _ columns) fun _ _ columns => announced columns
  · exact announced columns

/-- Ending with the input accounts for its result. -/
theorem accounts_abandon {editor : Editor} (columns : editor.HasColumns) :
    abandon.Accounts editor :=
  .get_bind <| .bind (.note _ columns) fun _ _ columns =>
    .bind (.modify columns) fun _ _ columns =>
    .bind (.call nofun columns) fun _ _ columns =>
    .bind (.call nofun columns) fun _ _ columns => .pure _ columns

/-- **The keys of a session are accounted for.** -/
theorem accounts_handleKeys (keys : Nat) {editor : Editor} (columns : editor.HasColumns) :
    (handleKeys keys).Accounts editor := by
  induction keys generalizing editor with
  | zero =>
    unfold handleKeys
    refine .get_bind ?_
    split
    · exact (accounts_commit columns).map
    · exact .pure _ columns
  | succ keys ih =>
    unfold handleKeys
    refine .get_bind ?_
    split
    · exact (accounts_commit columns).map
    refine .bind (.call nofun columns) fun key? _ columns => ?_
    cases key? with
    | none => exact (accounts_abandon columns).map
    | some key => exact .bind (accounts_respond key columns) fun _ _ columns => ih columns

/-- **Reading a line accounts for its result.** The line is dropped after a failure, which makes no
call. -/
theorem accounts_readLine (keys : Nat) (prompt : String) (editor : Editor) :
    (readLine keys prompt).Accounts editor := by
  -- What is done about a failure drops the line and makes no call.
  have session : (do begin prompt; handleKeys keys).Accounts editor :=
    .bind (accounts_begin prompt editor) fun _ _ columns => accounts_handleKeys keys columns
  unfold readLine Accounts
  rw [ensures_tryCatch]
  refine session.mono ?_
  intro course result after holds
  cases result with
  | ok reading => exact holds
  | error failure =>
    refine ⟨?_, nofun⟩
    rw [Moment.exchanges_append]
    exact (List.append_nil (Moment.exchanges course)).symm ▸ holds.1

/-! ### The loop -/

/-- Writing a line accounts for its result. -/
theorem accounts_writeLine (text : String) {editor : Editor} (columns : editor.HasColumns) :
    (talk (Talk.writeLine text)).Accounts editor := by
  unfold Talk.writeLine
  rw [talk_bind]
  exact .bind (.call nofun columns) fun _ _ columns => .call nofun columns

/-- Showing an error accounts for its result. -/
theorem accounts_writeErrorLine (text : String) {editor : Editor} (columns : editor.HasColumns) :
    (talk (Talk.writeErrorLine text)).Accounts editor := by
  unfold Talk.writeErrorLine
  simp only [talk_bind]
  refine .bind (.call nofun columns) fun _ _ columns => ?_
  refine .bind (.call nofun columns) fun _ _ columns => ?_
  exact .bind (.call nofun columns) fun _ _ columns => .call nofun columns

/-- Writing several lines accounts for its result. -/
theorem accounts_writeLines (lines : List String) {editor : Editor}
    (columns : editor.HasColumns) : (talk (Repl.writeLines lines)).Accounts editor := by
  induction lines generalizing editor with
  | nil => exact .pure () columns
  | cons line rest ih =>
    unfold Repl.writeLines
    rw [talk_bind]
    exact .bind (accounts_writeLine line columns) fun _ _ columns => ih columns

/-- Obeying a command accounts for its result. -/
theorem accounts_obey (command : Repl.Command) {editor : Editor} (columns : editor.HasColumns) :
    (Repl.obey command).Accounts editor := by
  cases command with
  | info => exact .bind (accounts_writeLine _ columns) fun _ _ columns => .pure _ columns
  | history =>
    unfold Repl.obey
    refine .get_bind ?_
    dsimp only
    split
    · exact .bind (accounts_writeErrorLine _ columns) fun _ _ columns => .pure _ columns
    · exact .bind (accounts_writeLines _ columns) fun _ _ columns => .pure _ columns
  | clearHistory =>
    exact .bind (.modify columns) fun _ _ columns =>
      .bind (accounts_writeLine _ columns) fun _ _ columns => .pure _ columns
  | exit => exact .pure _ columns

/-- Acting on a line accounts for its result. -/
theorem accounts_process (line : String) {editor : Editor} (columns : editor.HasColumns) :
    (Repl.process line).Accounts editor := by
  unfold Repl.process
  refine .get_bind ?_
  split
  · exact .pure _ columns
  cases Repl.Command.ofName? (Text.trim line) with
  | some command => exact accounts_obey command columns
  | none => exact .bind (accounts_writeLine _ columns) fun _ _ columns => .pure _ columns

/-- A round of the loop is accounted for, wherever the line stood before. -/
theorem accounts_run_succ {keys lines : Nat}
    (rest : ∀ editor : Editor, editor.HasColumns → (Repl.run keys lines).Accounts editor)
    (editor : Editor) : (Repl.run keys (lines + 1)).Accounts editor := by
  unfold Repl.run
  refine .bind (accounts_readLine keys Repl.prompt editor) fun reading? _ columns => ?_
  match reading? with
  | none => exact .pure _ columns
  | some .endOfInput => exact .pure _ columns
  | some (.line text) =>
    refine .bind (accounts_process text columns) fun flow _ columns => ?_
    cases flow with
    | stop => exact .pure _ columns
    | goOn => exact rest _ columns

/-- **The loop accounts for its result.** -/
theorem accounts_run (keys lines : Nat) {editor : Editor} (columns : editor.HasColumns) :
    (Repl.run keys lines).Accounts editor := by
  induction lines generalizing editor with
  | zero => exact .pure _ columns
  | succ lines ih => exact accounts_run_succ (fun _ columns => ih columns) editor

end Editing

/-- **What becomes of a failure.** Whatever the terminal answers, reading a line and the loop that
echoes lines report it: a call that fails is the last one and its failure is the result, and nothing
else makes them fail but a terminal without columns, which always does. -/
theorem Console.reports_readLine_run {σ : Type} (device : Terminal σ) (keys lines : Nat)
    (prompt : String) (console : Console σ) :
    Exchange.Reports (Moment.exchanges (console.course device (Editing.readLine keys prompt)))
        (console.perform device (Editing.readLine keys prompt)).1 ∧
      Exchange.Reports (Moment.exchanges (console.course device (Repl.run keys lines)))
        (console.perform device (Repl.run keys lines)).1 := by
  have line := console.perform_of_ensures device
    (Editing.accounts_readLine keys prompt console.editor)
  refine ⟨line.1.reports, ?_⟩
  cases lines with
  | zero => exact Exchange.Accounts.reports (List.forall_mem_nil _)
  | succ lines =>
    have loop := console.perform_of_ensures device
      (Editing.accounts_run_succ (fun _ columns => Editing.accounts_run keys lines columns)
        console.editor)
    exact loop.1.reports

/-- A read that fails while a line is typed at a prompt or in the loop, a terminal without columns,
and input that ends. -/
theorem Console.reports_readLine_run_each :
    let console (width : UInt16) (inputs : List Input) : Console Script :=
      { editor := { history := { capacity := 2 } }, stage := { terminal := { inputs, width } } }
    let calls {α : Type} (operation : Editing α) (console : Console Script) : List Exchange :=
      Moment.exchanges (console.course Script.terminal operation)
    let cut := console 8 (Script.typing "hi" ++ [.fail .notConnected])
    let EndsLost (exchanges : List Exchange) : Prop := ∃ before lost,
      exchanges = before ++ [lost] ∧ lost.call = .readKey true ∧
        lost.failure? = some (.io .notConnected)
    (EndsLost (calls (Editing.readLine 9 "> ") cut) ∧
        (cut.perform Script.terminal (Editing.readLine 9 "> ")).1 = .error (.io .notConnected)) ∧
      (EndsLost (calls (Repl.run 9 9) cut) ∧
        (cut.perform Script.terminal (Repl.run 9 9)).1 = .error (.io .notConnected)) ∧
      (calls (Editing.readLine 9 "> ") (console 0 []) = [⟨.width, .ok 0⟩, ⟨.cursorRow, .ok 0⟩] ∧
        ((console 0 []).perform Script.terminal (Editing.readLine 9 "> ")).1 =
          .error .zeroWidth) ∧
      (((console 8 []).perform Script.terminal (Editing.readLine 9 "> ")).1 =
          .ok (some .endOfInput) ∧
        ∀ exchange ∈ calls (Editing.readLine 9 "> ") (console 8 []), exchange.IsFine) := by
  intro console calls cut EndsLost
  have reports (console : Console Script) := reports_readLine_run Script.terminal 9 9 "> " console
  have lost {α : Type} {exchanges : List Exchange} {result : Except TerminalError α}
      (reported : Exchange.Reports exchanges result)
      (found : exchanges.any fun exchange =>
        exchange.call = .readKey true ∧ exchange.failure? = some (.io .notConnected)) :
      EndsLost exchanges ∧ result = .error (.io .notConnected) := by
    obtain ⟨exchange, made, isLost⟩ := List.any_eq_true.mp found
    obtain ⟨reads, fails⟩ := of_decide_eq_true isLost
    obtain ⟨⟨before, split⟩, failed⟩ := reported.of_mem made fails
    exact ⟨⟨before, exchange, split, reads, fails⟩, failed⟩
  refine ⟨?cutLine, ?cutLoop, ?noColumns, ?endOfInput⟩
  case cutLine => exact lost (reports cut).1 (by decide +kernel)
  case cutLoop => exact lost (reports cut).2 (by decide +kernel)
  case noColumns =>
    have made : calls (Editing.readLine 9 "> ") (console 0 []) =
        [⟨.width, .ok 0⟩, ⟨.cursorRow, .ok 0⟩] := rfl
    have reported := (reports (console 0 [])).1
    change Exchange.Reports (calls (Editing.readLine 9 "> ") (console 0 [])) _ at reported
    rw [made] at reported
    have succeed : ∀ exchange ∈ [⟨.width, .ok 0⟩, ⟨.cursorRow, .ok 0⟩],
        Exchange.failure? exchange = none :=
      List.forall_mem_cons.mpr ⟨rfl, List.forall_mem_singleton.mpr rfl⟩
    refine ⟨made, (reported.noColumns succeed .zeroWidth).mpr ⟨rfl, ?_⟩⟩
    exact ⟨⟨.width, .ok 0⟩, List.mem_cons_self, rfl⟩
  case endOfInput =>
    have ended : ((console 8 []).perform Script.terminal (Editing.readLine 9 "> ")).1 =
        .ok (some .endOfInput) := by
      decide +kernel
    have reported := (reports (console 8 [])).1
    rw [ended] at reported
    exact ⟨ended, reported.isFine⟩

end PromptLine
