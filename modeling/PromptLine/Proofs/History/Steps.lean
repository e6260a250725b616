import PromptLine.History

/-!
# The steps of a history

What each step can do is told once here, and nothing else looks into the definitions. A step back or
forward changes the place of browsing only (`PromptLine.History.previous_cases`,
`PromptLine.History.next_cases`). Adding a text leaves all the entries with the text as the newest,
or all but the oldest of them, and the place of browsing goes down with them
(`PromptLine.History.entries_add`, `PromptLine.History.browsing_add`).
-/

namespace PromptLine.History

section Moves
variable (history : History)

/-- **One step back.** Nothing moves in an empty history and at the oldest entry; otherwise the
place goes down by one, from the place after the newest when nobody is browsing. -/
theorem previous_cases :
    ((history.entries = [] ∨ history.browsing = some 0) ∧ history.previous = (none, history)) ∨
    ∃ index, history.browsing.getD history.length = index + 1 ∧
      history.previous = (history.entries[index]?, { history with browsing := some index }) := by
  by_cases stuck : history.entries = [] ∨ history.browsing = some 0
  · refine Or.inl ⟨stuck, ?_⟩
    apply if_pos
    simpa using stuck
  · have moves : ¬ (history.entries.isEmpty ∨ history.browsing = some 0) := by simpa using stuck
    obtain ⟨nonempty, notOldest⟩ := not_or.mp stuck
    have start : history.browsing.getD history.length ≠ 0 := by
      cases place : history.browsing with
      | none => simpa [length] using nonempty
      | some index => simpa [place] using notOldest
    obtain ⟨index, above⟩ := Nat.exists_eq_add_one_of_ne_zero start
    refine Or.inr ⟨index, above, ?_⟩
    simp only [previous, if_neg moves, above, Nat.add_sub_cancel]

/-- **One step forward.** The place goes up by one if there is an entry; otherwise browsing ends. -/
theorem next_cases :
    ((∀ index ∈ history.browsing, history.length ≤ index + 1) ∧
      history.next = (none, { history with browsing := none })) ∨
    ∃ index, history.browsing = some index ∧ index + 1 < history.length ∧
      history.next =
        (history.entries[index + 1]?, { history with browsing := some (index + 1) }) := by
  obtain ⟨capacity, entries, browsing⟩ := history
  cases browsing with
  | none => exact Or.inl ⟨nofun, rfl⟩
  | some index =>
    by_cases newer : index + 1 < entries.length
    · exact Or.inr ⟨index, rfl, newer, if_pos newer⟩
    · refine Or.inl ⟨?_, if_neg newer⟩
      simpa [length] using newer

end Moves

section Additions
variable (history : History) (text : String)

/-- A text adds one entry at most. -/
theorem length_entriesWith_le : (history.entriesWith text).length ≤ history.length + 1 := by
  unfold entriesWith length
  split <;> simp

/-- A text that is entered takes no entry away before the oldest has to go. -/
theorem length_le_entriesWith : history.length ≤ (history.entriesWith text).length := by
  unfold entriesWith length
  split <;> simp

/-- The entries after a text was added: all of them, or all but the oldest. -/
theorem entries_add :
    (history.add text).entries =
      if history.capacity < (history.entriesWith text).length then
        (history.entriesWith text).tail
      else history.entriesWith text := by
  unfold add
  dsimp only
  split <;> rfl

@[simp] theorem capacity_add : (history.add text).capacity = history.capacity := by
  unfold add
  dsimp only
  split <;> rfl

/-- The place of browsing after a text was added goes down with the entries. -/
theorem browsing_add :
    (history.add text).browsing =
      if history.capacity < (history.entriesWith text).length then
        (history.browsingAfter text).map (· - 1)
      else history.browsingAfter text := by
  unfold add
  dsimp only
  split <;> rfl

/-- The entry that is shown stays shown just if it is the text that was entered. -/
theorem mem_browsingAfter {index : Nat} :
    index ∈ history.browsingAfter text ↔
      index ∈ history.browsing ∧ (history.entriesWith text)[index]? = some text := by
  simp [browsingAfter, Option.filter_eq_some_iff]

/-- When a text is added to a history, nothing goes but the entry that has to go. -/
theorem entriesWith_eq :
    history.entriesWith text = (history.evictedBy? text).toList ++ (history.add text).entries := by
  rw [entries_add]
  unfold evictedBy?
  split
  · cases history.entriesWith text with
    | nil => rfl
    | cons oldest rest => rfl
  · rfl

end Additions

/-! ### The place of browsing apart -/

/-- The second history is the first one with another place of browsing. -/
structure Agrees (before after : History) : Prop where
  entries : after.entries = before.entries
  capacity : after.capacity = before.capacity

namespace Agrees
variable {first second third : History}

theorem refl (history : History) : history.Agrees history := ⟨rfl, rfl⟩

theorem trans (agrees : first.Agrees second) (further : second.Agrees third) :
    first.Agrees third :=
  ⟨further.entries.trans agrees.entries, further.capacity.trans agrees.capacity⟩

/-- Which entries a text leaves does not depend on the place of browsing. -/
theorem add (agrees : first.Agrees second) (text : String) :
    (first.add text).Agrees (second.add text) := by
  have entriesWith : second.entriesWith text = first.entriesWith text := by
    simp only [History.entriesWith, agrees.entries]
  constructor
  · simp only [entries_add, entriesWith, agrees.capacity]
  · simp only [capacity_add, agrees.capacity]

end Agrees

/-- Going back changes only the place of browsing. -/
theorem agrees_previous (history : History) : history.Agrees history.previous.2 := by
  rcases history.previous_cases with ⟨-, stays⟩ | ⟨index, -, moves⟩
  · rw [stays]
    exact .refl history
  · rw [moves]
    exact ⟨rfl, rfl⟩

/-- Going forward changes only the place of browsing. -/
theorem agrees_next (history : History) : history.Agrees history.next.2 := by
  rcases history.next_cases with ⟨-, ends⟩ | ⟨index, -, -, moves⟩
  · rw [ends]
    exact ⟨rfl, rfl⟩
  · rw [moves]
    exact ⟨rfl, rfl⟩

end PromptLine.History
