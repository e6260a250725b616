import PromptLine.Proofs.History.Validity

/-!
# Entering a text while browsing

Browsing ends when a text is entered that is not the entry being looked at
(`PromptLine.History.browsing_add_of_ne`), and then a step back shows the text, which is the newest
entry. When the entry being looked at is entered again, browsing goes on. The place goes down with
the entries if the oldest one has to go, and is still that of the text, unless the oldest entry was
the one being looked at (`PromptLine.History.browsing_reentered`).
-/

namespace PromptLine.History

section Entering
variable {history : History} {text entry : String} {index : Nat}

/-- Entering a text leaves the entries in their places, before one of them has to go. -/
theorem getElem?_entriesWith (looked : history.entries[index]? = some entry) :
    (history.entriesWith text)[index]? = some entry := by
  unfold entriesWith
  split
  · exact looked
  · rwa [List.getElem?_append_left (List.getElem?_eq_some_iff.mp looked).1]

/-- The newest entry is the text that was entered. -/
theorem getLast?_entriesWith (history : History) (text : String) :
    (history.entriesWith text).getLast? = some text := by
  unfold entriesWith
  split <;> rename_i newest
  · exact newest
  · exact List.getLast?_concat

/-- Browsing goes on after a text was entered just if the text is the entry that is shown. -/
theorem browsingAfter_of_browsed (browsed : history.browsing = some index)
    (looked : history.entries[index]? = some entry) :
    history.browsingAfter text = if entry = text then some index else none := by
  rw [browsingAfter, browsed, Option.filter_some, getElem?_entriesWith looked]
  simp

/-- **Browsing ends** when a text is entered that is not the entry being looked at. -/
theorem browsing_add_of_ne (browsed : history.browsing = some index)
    (looked : history.entries[index]? = some entry) (other : entry ≠ text) :
    (history.add text).browsing = none := by
  rw [browsing_add, browsingAfter_of_browsed browsed looked, if_neg other]
  split <;> rfl

/-- A text that was entered is the newest entry, if there may be entries at all. -/
theorem getLast?_add (room : history.capacity ≠ 0) :
    (history.add text).entries.getLast? = some text := by
  rw [entries_add]
  split <;> rename_i larger
  · have several : (history.entriesWith text).length ≠ 1 := by omega
    rw [List.getLast?_tail, if_neg several, getLast?_entriesWith]
  · exact getLast?_entriesWith history text

/-- Only where there may be no entries at all is there none after a text was entered. -/
theorem Valid.entries_add_eq_nil_iff (valid : history.Valid) :
    (history.add text).entries = [] ↔ history.capacity = 0 := by
  constructor
  · intro none
    by_contra room
    have newest : (history.add text).entries.getLast? = some text := getLast?_add room
    rw [none] at newest
    cases newest
  · intro room
    have bounded := (valid.add text).bounded
    rw [capacity_add, room] at bounded
    exact List.length_eq_zero_iff.mp (Nat.le_zero.mp bounded)

/-- When nobody is browsing, a step back shows the newest entry. -/
theorem previous_of_not_browsing (outside : history.browsing = none) :
    history.previous.1 = history.entries.getLast? := by
  rcases history.previous_cases with ⟨stuck, stays⟩ | ⟨index, above, moves⟩
  · have empty : history.entries = [] := stuck.resolve_right (by simp [outside])
    rw [stays, empty]
    rfl
  · have newest : index = history.entries.length - 1 := by
      rw [outside, Option.getD_none, length] at above
      omega
    rw [moves, newest, List.getLast?_eq_getElem?]

/-- Whether the oldest entry has to go. -/
theorem Valid.capacity_lt_iff (valid : history.Valid) :
    history.capacity < (history.entriesWith text).length ↔
      history.length = history.capacity ∧ history.entries.getLast? ≠ some text := by
  have bounded := valid.bounded
  by_cases newest : history.entries.getLast? = some text
  · have same : (history.entriesWith text).length = history.length :=
      congrArg List.length (if_pos newest)
    rw [same]
    exact ⟨fun larger => absurd bounded larger.not_ge, fun full => absurd newest full.2⟩
  · have more : (history.entriesWith text).length = history.length + 1 :=
      (congrArg List.length (if_neg newest)).trans List.length_append
    rw [more]
    exact ⟨fun larger => ⟨bounded.antisymm (Nat.le_of_lt_succ larger), newest⟩,
      fun full => full.1 ▸ Nat.lt_succ_self _⟩

end Entering

/-- **An entry that is entered again** while it is being looked at. Browsing goes on. If the oldest
entry does not have to go, the place stays; if it has to, the place goes down by one, but not below
zero. There the text is still found, unless the oldest entry has to go and was being looked at. -/
theorem browsing_reentered (capacity : Nat) (taken : List Step) (text : String) (index : Nat)
    (browsed : ((empty capacity).steps taken).browsing = some index)
    (looked : ((empty capacity).steps taken).entries[index]? = some text) :
    let history := (empty capacity).steps taken
    let after := history.add text
    let full := history.length = history.capacity ∧ history.entries.getLast? ≠ some text
    ∃ place, after.browsing = some place ∧
      (¬ full → place = index) ∧ (full → place = index - 1) ∧
      (after.entries[place]? = some text ↔ ¬ (full ∧ index = 0)) := by
  intro history after full
  have valid : history.Valid := (Valid.empty capacity).steps taken
  have stays : history.browsingAfter text = some index := by
    rw [browsingAfter_of_browsed browsed looked, if_pos rfl]
  have found : (history.entriesWith text)[index]? = some text := getElem?_entriesWith looked
  have evicts : history.capacity < (history.entriesWith text).length ↔ full :=
    valid.capacity_lt_iff
  have entries := history.entries_add text
  have browsing := history.browsing_add text
  rw [stays] at browsing
  by_cases goes : full
  case neg =>
    rw [if_neg (evicts.not.mpr goes)] at entries browsing
    refine ⟨index, browsing, fun _ => rfl, fun full => absurd full goes, ?_⟩
    rw [entries]
    simp only [found, goes, false_and, not_false_eq_true]
  case pos =>
    have larger := evicts.mpr goes
    rw [if_pos larger] at entries browsing
    refine ⟨index - 1, browsing, fun spare => absurd goes spare, fun _ => rfl, ?_⟩
    rw [entries, List.getElem?_tail]
    simp only [goes, true_and]
    cases index with
    | succ before => simp only [Nat.add_sub_cancel, found, Nat.succ_ne_zero, not_false_eq_true]
    | zero =>
      -- The entry that takes the place of the oldest is the next one, and neighbours differ.
      have distinct := history.isChain_entriesWith text valid.distinct
      have inside := valid.browses 0 browsed
      have bounded := valid.bounded
      simp only [not_true_eq_false, iff_false]
      intro next
      generalize history.entriesWith text = whole at found distinct next
      match whole, found, next with
      | first :: second :: _, found, next =>
        have firstText : first = text := Option.some.inj found
        have secondText : second = text := Option.some.inj next
        exact (List.isChain_cons_cons.mp distinct).1 (firstText.trans secondText.symm)

/-- The second of three entries is entered again, and goes to the place of the first. -/
theorem browsing_reentered_moved :
    let taken : List Step := [.add "a", .add "b", .add "c", .previous, .previous]
    ((empty 3).steps taken).browsing = some 1 ∧
      ((empty 3).steps taken).entries[1]? = some "b" ∧
      ∃ place, (((empty 3).steps taken).add "b").browsing = some place ∧
        (((empty 3).steps taken).add "b").entries[place]? = some "b" ∧ place = 0 := by
  intro taken
  have browsed : ((empty 3).steps taken).browsing = some 1 := by decide
  have looked : ((empty 3).steps taken).entries[1]? = some "b" := by decide
  have full : ((empty 3).steps taken).length = ((empty 3).steps taken).capacity ∧
      ((empty 3).steps taken).entries.getLast? ≠ some "b" := by decide
  obtain ⟨place, goesOn, -, moved, same⟩ := browsing_reentered 3 taken "b" 1 browsed looked
  exact ⟨browsed, looked, place, goesOn, same.mpr (by simp), moved full⟩

/-- The oldest of two entries is entered again, and the other one is looked at afterwards. -/
theorem browsing_reentered_oldest :
    let history := (empty 2).steps [.add "a", .add "b", .previous, .previous]
    history.browsing = some 0 ∧ history.entries[0]? = some "a" ∧
      (history.add "a").browsing = some 0 ∧ (history.add "a").entries[0]? = some "b" := by
  decide

end PromptLine.History
