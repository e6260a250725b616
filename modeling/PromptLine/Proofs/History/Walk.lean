import PromptLine.Proofs.History.Validity

/-!
# The walk over the entries

Browsing is a walk over the places of the entries and one more place after the newest entry, where
nobody is browsing (`PromptLine.History.position`). A move leads to the place before or to the place
after, and does not leave these places (`PromptLine.History.Move.go`). A history shows what the walk
shows and stands where the walk leads, whatever the moves are (`PromptLine.History.steps_walk`).

So as many moves back as there are entries show them all from the newest to the oldest, and as many
moves forward lead back to where the walk began, by all the entries but the oldest.
-/

namespace PromptLine.History

/-- A step to another entry. -/
inductive Move where
  | back
  | forward
deriving DecidableEq, Repr

namespace Move

/-- The operation of a history that a move is. -/
def step : Move → Step
  | .back => .previous
  | .forward => .next

/-- **One move** from a place: the entry that it shows, if any, and the place that it leads to. -/
def go (entries : List String) (place : Nat) : Move → Option String × Nat
  | .back => if 0 < place then (entries[place - 1]?, place - 1) else (none, place)
  | .forward =>
    if place + 1 < entries.length then (entries[place + 1]?, place + 1)
    else (none, entries.length)

end Move

/-- **A walk** from a place: what the moves show, one after the other, and where they lead. -/
def walk (entries : List String) (place : Nat) : List Move → List (Option String) × Nat
  | [] => ([], place)
  | move :: later =>
    let reached := move.go entries place
    let onwards := walk entries reached.2 later
    (reached.1 :: onwards.1, onwards.2)

/-- The place in a history: that of the entry being looked at, or the one after the newest entry
when nobody is browsing. -/
def position (history : History) : Nat := history.browsing.getD history.length

/-- What steps show, one after the other. -/
def shown (history : History) : List Step → List (Option String)
  | [] => []
  | one :: later => (history.step one).1 :: (history.step one).2.shown later

section Walks
variable (entries : List String)

/-- The second of two walks in a row goes on where the first one led. -/
theorem walk_append (place : Nat) (first second : List Move) :
    walk entries place (first ++ second) =
      let reached := walk entries place first
      let onwards := walk entries reached.2 second
      (reached.1 ++ onwards.1, onwards.2) := by
  induction first generalizing place with
  | nil => rfl
  | cons move first ih =>
    simp only [List.cons_append, walk]
    rw [ih]

/-- As many moves back as there are entries before a place show these, the newest first. -/
theorem walk_back {place : Nat} (inside : place ≤ entries.length) :
    walk entries place (List.replicate place .back) = ((entries.take place).reverse.map some, 0) := by
  induction place with
  | zero => rfl
  | succ place ih =>
    have before : place < entries.length := inside
    have gone : Move.back.go entries (place + 1) = (some entries[place], place) := by
      rw [Move.go, if_pos (Nat.succ_pos place), Nat.add_sub_cancel,
        List.getElem?_eq_getElem before]
    rw [List.replicate_succ, walk, gone, ih before.le, List.take_succ_eq_append_getElem before,
      List.reverse_append]
    rfl

/-- At the oldest entry, moves back show nothing and lead nowhere. -/
theorem walk_back_oldest (count : Nat) :
    walk entries 0 (List.replicate count .back) = (List.replicate count none, 0) := by
  induction count with
  | zero => rfl
  | succ count ih =>
    have stays : Move.back.go entries 0 = (none, 0) := rfl
    rw [List.replicate_succ, walk, stays, ih]
    rfl

/-- As many moves forward as there are entries after a place show these, the oldest first. -/
theorem walk_forward (count : Nat) {place : Nat} (all : place + count + 1 = entries.length) :
    walk entries place (List.replicate count .forward) =
      ((entries.drop (place + 1)).map some, place + count) := by
  induction count generalizing place with
  | zero =>
    rw [List.drop_of_length_le all.ge]
    rfl
  | succ count ih =>
    have newer : place + 1 < entries.length := by omega
    have gone : Move.forward.go entries place = (some entries[place + 1], place + 1) := by
      rw [Move.go, if_pos newer, List.getElem?_eq_getElem newer]
    rw [List.replicate_succ, walk, gone, ih (by omega), List.drop_eq_getElem_cons newer]
    simp only [List.map_cons, Prod.mk.injEq, true_and]
    omega

/-- From the oldest entry, one move forward fewer than there are entries shows all the others, and
one more leaves the entries. -/
theorem walk_forward_all :
    walk entries 0 (List.replicate (entries.length - 1) .forward ++ [.forward]) =
      ((entries.drop 1).map some ++ [none], entries.length) := by
  cases entries with
  | nil => rfl
  | cons oldest newer =>
    have shows : walk (oldest :: newer) 0 (List.replicate newer.length .forward) =
        (newer.map some, newer.length) := by
      have inside : 0 + newer.length + 1 = (oldest :: newer).length := by simp
      rw [walk_forward _ newer.length inside]
      simp only [Nat.zero_add, List.drop_one, List.tail_cons]
    have leaves : Move.forward.go (oldest :: newer) newer.length = (none, newer.length + 1) :=
      if_neg (Nat.lt_irrefl _)
    rw [List.length_cons, Nat.add_sub_cancel, walk_append, shows]
    simp only [walk, leaves]
    rfl

end Walks

section Moves
variable {history : History}

/-- Nobody is browsing in the place after the newest entry, and only there. -/
theorem Valid.browsing_eq_none_iff (valid : history.Valid) :
    history.browsing = none ↔ history.position = history.length := by
  unfold position
  cases browsed : history.browsing with
  | none => simp
  | some index =>
    have inside := valid.browses index browsed
    simp [inside.ne]

/-- The place of browsing is that of an entry, or past the newest one. -/
theorem Valid.position_le (valid : history.Valid) : history.position ≤ history.length := by
  unfold position
  cases browsed : history.browsing with
  | none => exact Nat.le_refl _
  | some index => exact (valid.browses index browsed).le

/-- **A step of a history** shows what the move shows, and leads where it leads. -/
theorem Valid.step_move (valid : history.Valid) (move : Move) :
    let gone := move.go history.entries history.position
    (history.step move.step).1 = gone.1 ∧ (history.step move.step).2.position = gone.2 := by
  cases move with
  | back =>
    change history.previous.1 = _ ∧ history.previous.2.position = _
    rcases history.previous_cases with ⟨stuck, stays⟩ | ⟨index, above, moves⟩
    · have oldest : history.position = 0 := by
        rcases stuck with empty | first
        · have none : history.length = 0 := List.length_eq_zero_iff.mpr empty
          exact Nat.le_zero.mp (none ▸ valid.position_le)
        · rw [position, first, Option.getD_some]
      rw [stays, oldest]
      exact ⟨rfl, rfl⟩
    · have start : history.position = index + 1 := above
      rw [moves, start, Move.go, if_pos (Nat.succ_pos index)]
      exact ⟨rfl, rfl⟩
  | forward =>
    change history.next.1 = _ ∧ history.next.2.position = _
    rcases history.next_cases with ⟨last, ends⟩ | ⟨index, browsed, newer, moves⟩
    · have outside : ¬ history.position + 1 < history.entries.length := by
        unfold position
        cases browsed : history.browsing with
        | none => exact Nat.not_lt.mpr (Nat.le_succ _)
        | some index => exact Nat.not_lt.mpr (last index browsed)
      rw [ends, Move.go, if_neg outside]
      exact ⟨rfl, rfl⟩
    · have start : history.position = index := by rw [position, browsed, Option.getD_some]
      have inside : index + 1 < history.entries.length := newer
      rw [moves, start, Move.go, if_pos inside]
      exact ⟨rfl, rfl⟩

/-- A move changes only the place of browsing. -/
theorem agrees_move (history : History) (move : Move) :
    history.Agrees (history.step move.step).2 := by
  cases move with
  | back => exact history.agrees_previous
  | forward => exact history.agrees_next

/-- **The moves of a history** are the walk over its entries. -/
theorem Valid.steps_moves (valid : history.Valid) (moves : List Move) :
    let walked := history.steps (moves.map Move.step)
    let gone := walk history.entries history.position moves
    history.shown (moves.map Move.step) = gone.1 ∧ walked.position = gone.2 ∧
      history.Agrees walked := by
  induction moves generalizing history with
  | nil => exact ⟨rfl, rfl, .refl history⟩
  | cons move later ih =>
    obtain ⟨shows, leads⟩ := valid.step_move move
    have agrees := history.agrees_move move
    obtain ⟨showsLater, leadsLater, agreesLater⟩ := ih (valid.step move.step)
    rw [agrees.entries, leads] at showsLater leadsLater
    refine ⟨?_, leadsLater, agrees.trans agreesLater⟩
    exact congrArg₂ List.cons shows showsLater

end Moves

/-- **Browsing is a walk over the entries.** In every history that can be reached from a new one,
whatever the moves are, each shows what the move of the walk shows, and the last one leads where the
walk leads; the entries stay as they are. The place is never beyond the one after the newest entry,
and it is that one just when nobody is browsing. From there, as many moves back as there are entries
show them all, the newest first, and any more show nothing; then the moves forward show the entries
but the oldest, and one more shows nothing and ends browsing. -/
theorem steps_walk (capacity : Nat) (taken : List Step) (moves : List Move) :
    let history := (empty capacity).steps taken
    let walked := history.steps (moves.map Move.step)
    let gone := walk history.entries history.position moves
    history.shown (moves.map Move.step) = gone.1 ∧
      walked.position = gone.2 ∧
      walked.entries = history.entries ∧
      walked.position ≤ history.length ∧
      (walked.browsing = none ↔ walked.position = history.length) ∧
      (history.browsing = none → ∀ more : Nat,
        let tour : List Move :=
          List.replicate history.length .back ++ List.replicate more .back ++
            (List.replicate (history.length - 1) .forward ++ [.forward])
        history.shown (tour.map Move.step) =
            history.entries.reverse.map some ++ List.replicate more none ++
              ((history.entries.drop 1).map some ++ [none]) ∧
          (history.steps (tour.map Move.step)).browsing = none) := by
  intro history walked gone
  have valid : history.Valid := (Valid.empty capacity).steps taken
  have validWalked : walked.Valid := valid.steps _
  obtain ⟨shows, leads, agrees⟩ := valid.steps_moves moves
  have length : walked.length = history.length := congrArg List.length agrees.entries
  refine ⟨shows, leads, agrees.entries, ?_, ?_, ?tour⟩
  · exact length ▸ validWalked.position_le
  · exact length ▸ validWalked.browsing_eq_none_iff
  case tour =>
    intro outside more tour
    -- Outside of browsing, the walk starts past the newest entry.
    have start : history.position = history.entries.length :=
      valid.browsing_eq_none_iff.mp outside
    have toured : walk history.entries history.entries.length tour =
        (history.entries.reverse.map some ++ List.replicate more none ++
          ((history.entries.drop 1).map some ++ [none]), history.entries.length) := by
      change walk _ _ (List.replicate history.entries.length _ ++ _ ++
        (List.replicate (history.entries.length - 1) _ ++ _)) = _
      rw [walk_append, walk_append, walk_back _ (Nat.le_refl _), List.take_length]
      simp only [walk_back_oldest, walk_forward_all]
    obtain ⟨showsAll, leadsBack, same⟩ := valid.steps_moves tour
    rw [start, toured] at showsAll leadsBack
    refine ⟨showsAll, ((valid.steps _).browsing_eq_none_iff).mpr ?_⟩
    exact leadsBack.trans (congrArg List.length same.entries).symm

/-- Up and down over three entries, and one step too far at each end. -/
theorem steps_walk_three :
    let history := (empty 3).steps [.add "a", .add "b", .add "c"]
    history.browsing = none ∧
      history.shown [.previous, .previous, .previous, .previous, .next, .next, .next] =
        [some "c", some "b", some "a", none, some "b", some "c", none] := by
  intro history
  have outside : history.browsing = none := by decide
  exact ⟨outside, ((steps_walk 3 _ []).2.2.2.2.2 outside 1).1⟩

end PromptLine.History
