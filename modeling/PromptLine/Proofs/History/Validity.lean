import Mathlib.Data.List.Chain
import PromptLine.Proofs.History.Steps

/-!
# Histories that can be reached

A history is valid if it holds no more than its capacity, keeps adjacent duplicates once, and is
browsed, if at all, at the index of an entry (`PromptLine.History.Valid`). A new history is valid,
and every step keeps it so. Adding a text relies on that: it drops one entry at most, so it can keep
the bound only because the bound held before.
-/

namespace PromptLine.History

/-- **A valid history.** -/
structure Valid (history : History) : Prop where
  bounded : history.length ≤ history.capacity
  distinct : history.entries.IsChain (· ≠ ·)
  browses : ∀ index ∈ history.browsing, index < history.length

/-- A text goes to the end only where it is not the newest entry already. -/
theorem isChain_entriesWith (history : History) (text : String)
    (distinct : history.entries.IsChain (· ≠ ·)) :
    (history.entriesWith text).IsChain (· ≠ ·) := by
  unfold entriesWith
  split <;> rename_i newest
  · exact distinct
  · apply List.isChain_append.mpr
    refine ⟨distinct, .singleton text, ?_⟩
    rintro entry last _ ⟨rfl⟩ rfl
    exact newest last

namespace Valid
variable {history : History}

/-- A history without entries is valid. -/
theorem empty (capacity : Nat) : (History.empty capacity).Valid where
  bounded := Nat.zero_le capacity
  distinct := .nil
  browses := nofun

/-- A place of browsing at another entry, or none, leaves a history valid. -/
theorem browse (valid : history.Valid) {browsing : Option Nat}
    (browses : ∀ index ∈ browsing, index < history.length) :
    Valid { history with browsing := browsing } where
  bounded := valid.bounded
  distinct := valid.distinct
  browses := browses

/-- **Adding a text.** One entry goes at most. That is enough, since there were not too many before;
and it goes only if there are as many as before afterwards, so no place of browsing is lost. -/
theorem add (valid : history.Valid) (text : String) : (history.add text).Valid := by
  have before := valid.bounded
  have grows := history.length_entriesWith_le text
  have keeps := history.length_le_entriesWith text
  constructor
  · rw [capacity_add, length, entries_add]
    split <;> rename_i larger
    · rw [List.length_tail]
      omega
    · exact Nat.le_of_not_lt larger
  · rw [entries_add]
    have distinct := history.isChain_entriesWith text valid.distinct
    split
    · exact distinct.tail
    · exact distinct
  · rw [browsing_add, length, entries_add]
    split <;> rename_i larger
    · intro index member
      obtain ⟨place, browsed, rfl⟩ := Option.map_eq_some_iff.mp member
      have inside := valid.browses place ((history.mem_browsingAfter text).mp browsed).1
      rw [List.length_tail]
      omega
    · intro index member
      have inside := valid.browses index ((history.mem_browsingAfter text).mp member).1
      omega

/-- A valid history is valid after a step back. -/
theorem previous (valid : history.Valid) : history.previous.2.Valid := by
  rcases history.previous_cases with ⟨-, stays⟩ | ⟨index, above, moves⟩
  · rw [stays]
    exact valid
  · rw [moves]
    apply valid.browse
    rintro _ ⟨rfl⟩
    cases place : history.browsing with
    | none =>
      rw [place, Option.getD_none] at above
      omega
    | some start =>
      have inside := valid.browses start place
      rw [place, Option.getD_some] at above
      omega

/-- A valid history is valid after a step forward. -/
theorem next (valid : history.Valid) : history.next.2.Valid := by
  rcases history.next_cases with ⟨-, ends⟩ | ⟨index, -, newer, moves⟩
  · rw [ends]
    exact valid.browse nofun
  · rw [moves]
    apply valid.browse
    rintro _ ⟨rfl⟩
    exact newer

/-- A history that was cleared is valid. -/
theorem clear (history : History) : history.clear.Valid where
  bounded := Nat.zero_le history.capacity
  distinct := .nil
  browses := nofun

/-- **Another capacity.** If it is too small, the newest entries stay, as many as it allows. -/
theorem setCapacity (valid : history.Valid) (capacity : Nat) :
    (history.setCapacity capacity).Valid := by
  unfold History.setCapacity
  split <;> rename_i larger
  · constructor
    · change (history.entries.drop (history.entries.length - capacity)).length ≤ capacity
      rw [List.length_drop]
      omega
    · exact valid.distinct.drop _
    · exact nofun
  · exact ⟨Nat.le_of_not_lt larger, valid.distinct, valid.browses⟩

/-- **Every step** keeps a history valid. -/
theorem step (valid : history.Valid) (one : Step) : (history.step one).2.Valid := by
  cases one with
  | add text => exact valid.add text
  | previous => exact valid.previous
  | next => exact valid.next
  | clear => exact .clear history
  | setCapacity capacity => exact valid.setCapacity capacity

/-- **Every sequence of steps** keeps a history valid. -/
theorem steps (valid : history.Valid) (taken : List Step) : (history.steps taken).Valid := by
  induction taken generalizing history with
  | nil => exact valid
  | cons one later ih => exact ih (valid.step one)

end Valid

/-- **What holds of every history that can be reached** from a new one, in whatever order texts are
added, the entries are browsed, they are cleared, and the capacity is changed. There are no more
entries than the capacity, adjacent ones differ, and the place of browsing is that of an entry. A
step back stays where it is in an empty history and at the oldest entry; otherwise the place that it
starts from is not zero, and it goes to an entry, which it shows. A step forward ends browsing where
there is no newer entry; otherwise it goes to an entry, which it shows. -/
theorem steps_within (capacity : Nat) (taken : List Step) :
    let history := (empty capacity).steps taken
    history.length ≤ history.capacity ∧
      history.entries.IsChain (· ≠ ·) ∧
      (∀ index ∈ history.browsing, index < history.length) ∧
      ((history.entries = [] ∨ history.browsing = some 0) ∧ history.previous = (none, history) ∨
        ∃ index entry, history.browsing.getD history.length = index + 1 ∧
          history.entries[index]? = some entry ∧
          history.previous = (some entry, { history with browsing := some index })) ∧
      ((∀ index ∈ history.browsing, history.length ≤ index + 1) ∧
          history.next = (none, { history with browsing := none }) ∨
        ∃ index entry, history.browsing = some index ∧
          history.entries[index + 1]? = some entry ∧
          history.next = (some entry, { history with browsing := some (index + 1) })) := by
  intro history
  have valid : history.Valid := (Valid.empty capacity).steps taken
  refine ⟨valid.bounded, valid.distinct, valid.browses, ?back, ?forward⟩
  case back =>
    apply history.previous_cases.imp id
    rintro ⟨index, above, moves⟩
    have inside : index < history.entries.length := by
      have after := valid.previous.browses index
      rw [moves] at after
      exact after rfl
    have shown := List.getElem?_eq_getElem inside
    exact ⟨index, _, above, shown, shown ▸ moves⟩
  case forward =>
    apply history.next_cases.imp id
    rintro ⟨index, place, newer, moves⟩
    have shown := List.getElem?_eq_getElem newer
    exact ⟨index, _, place, shown, shown ▸ moves⟩

end PromptLine.History
