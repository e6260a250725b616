import Mathlib.Data.List.Destutter
import Mathlib.Data.List.DropRight
import PromptLine.Proofs.History.Validity

/-!
# What a history retains

While texts are only added and browsed, a history holds the newest of them, as many as its capacity
allows, with adjacent duplicates kept once. When it is also cleared and its capacity is changed, it
still holds a suffix of the texts added since it was last cleared, with adjacent duplicates kept
once (`PromptLine.History.steps_retain`).

A text is compared with the newest entry that is there, not with the text that was added last. The
two are the same as long as there is an entry, and without one nothing is lost: a single text is a
suffix of every list that ends with it (`PromptLine.History.suffix_appended`).
-/

namespace PromptLine.History

/-- A text at the end of a list, unless it is there already. -/
def appended (text : String) (texts : List String) : List String :=
  if texts.getLast? = some text then texts else texts ++ [text]

/-- The texts with adjacent duplicates kept once. -/
def collapsed (texts : List String) : List String := texts.destutter (· ≠ ·)

/-- The texts added since the history was last cleared, after one more step. -/
def addedWith (texts : List String) : Step → List String
  | .add text => texts ++ [text]
  | .clear => []
  | .previous | .next | .setCapacity _ => texts

/-- The texts that some steps add after they last clear the history. -/
def added (taken : List Step) : List String := taken.foldl addedWith []

/-- Whether a step takes entries away from a history that is not full. -/
def Step.removes : Step → Bool
  | .clear | .setCapacity _ => true
  | .add _ | .previous | .next => false

section Lists
variable (text : String) (texts : List String)

/-- One more text is kept unless it equals the last one that was kept. -/
theorem destutter'_concat (first : String) :
    (texts ++ [text]).destutter' (· ≠ ·) first =
      appended text (texts.destutter' (· ≠ ·) first) := by
  induction texts generalizing first with
  | nil =>
    by_cases same : first = text
    · simp [appended, same]
    · simp [appended, same]
  | cons second texts ih =>
    by_cases same : first = second
    · subst same
      rw [List.cons_append, List.destutter'_cons_neg _ (not_not.mpr rfl),
        List.destutter'_cons_neg _ (not_not.mpr rfl)]
      exact ih first
    · have nonempty := List.destutter'_ne_nil texts (· ≠ ·) (a := second)
      rw [List.cons_append, List.destutter'_cons_pos _ same, List.destutter'_cons_pos _ same, ih]
      unfold appended
      rw [List.getLast?_cons_of_ne_nil nonempty, apply_ite (first :: ·)]
      rfl

/-- **One more text** is kept unless it is the last of those that were kept. -/
theorem collapsed_concat : collapsed (texts ++ [text]) = appended text (collapsed texts) := by
  cases texts with
  | nil => rfl
  | cons first texts => exact destutter'_concat text texts first

/-- Appending a text keeps a suffix a suffix, even an empty one of a list that ends with that text.
-/
theorem suffix_appended {part whole : List String} (suffix : part <:+ whole) :
    appended text part <:+ appended text whole := by
  unfold appended
  cases part using List.reverseRecOn with
  | nil =>
    simp only [List.getLast?_nil, reduceCtorEq, ↓reduceIte, List.nil_append]
    split <;> rename_i ends
    · obtain ⟨before, rfl⟩ := List.getLast?_eq_some_iff.mp ends
      exact List.suffix_append before [text]
    · exact List.suffix_append whole [text]
  | append_singleton part newest =>
    obtain ⟨before, rfl⟩ := suffix
    rw [← List.append_assoc, List.getLast?_concat, List.getLast?_concat]
    split
    · exact ⟨before, (List.append_assoc ..).symm⟩
    · refine ⟨before, ?_⟩
      simp only [List.append_assoc]

/-- A list that is short enough is not cut off. -/
theorem rtake_of_length_le {size : Nat} (fits : texts.length ≤ size) :
    texts.rtake size = texts := by
  rw [List.rtake, Nat.sub_eq_zero_of_le fits, List.drop_zero]

/-- Of two cuts the shorter one counts. -/
theorem rtake_rtake (few many : Nat) :
    (texts.rtake many).rtake few = texts.rtake (min few many) := by
  simp only [List.rtake_eq_reverse_take_reverse, List.reverse_reverse, List.take_take]

/-- What is cut off before a text is appended does not show after the same cut. -/
theorem rtake_appended (size : Nat) :
    (appended text (texts.rtake size)).rtake size = (appended text texts).rtake size := by
  cases size with
  | zero => rw [List.rtake_zero, List.rtake_zero]
  | succ size =>
    cases texts using List.reverseRecOn with
    | nil => rw [List.rtake_nil]
    | append_singleton before newest =>
      have shorter := rtake_rtake (before ++ [newest]) size (size + 1)
      rw [Nat.min_eq_left (Nat.le_succ size), List.rtake_concat_succ] at shorter
      unfold appended
      rw [List.rtake_concat_succ, List.getLast?_concat, List.getLast?_concat]
      split
      · rw [List.rtake_concat_succ, List.rtake_concat_succ, rtake_rtake, Nat.min_self]
      · rw [List.rtake_concat_succ, List.rtake_concat_succ, shorter]

/-- What a cut leaves is the end of the list. -/
theorem rtake_suffix (size : Nat) : texts.rtake size <:+ texts := List.drop_suffix _ texts

end Lists

section Steps
variable {history : History} {texts : List String}

/-- **Adding a text** leaves the newest entries, as many as the capacity allows. -/
theorem Valid.entries_add (valid : history.Valid) (text : String) :
    (history.add text).entries = (appended text history.entries).rtake history.capacity := by
  have before := valid.bounded
  have grows := history.length_entriesWith_le text
  change _ = (history.entriesWith text).rtake history.capacity
  rw [History.entries_add]
  split <;> rename_i larger
  · have surplus : (history.entriesWith text).length - history.capacity = 1 := by omega
    rw [List.rtake, surplus, List.drop_one]
  · exact (rtake_of_length_le _ (Nat.le_of_not_lt larger)).symm

/-- **Another capacity** leaves the newest entries, as many as it allows, and browsing goes on just
if these are all of them. -/
theorem setCapacity_eq (history : History) (capacity : Nat) :
    history.setCapacity capacity =
      { capacity
        entries := history.entries.rtake (min capacity history.length)
        browsing := if capacity < history.length then none else history.browsing } := by
  unfold setCapacity
  split <;> rename_i larger
  · rw [Nat.min_eq_left (Nat.le_of_lt larger)]
    rfl
  · have all : history.entries.rtake history.length = history.entries :=
      rtake_of_length_le _ (Nat.le_refl _)
    rw [Nat.min_eq_right (Nat.le_of_not_lt larger), all]

/-- A step that takes no entries away leaves the capacity as it is. -/
theorem capacity_step {one : Step} (keeps : ¬ one.removes) :
    (history.step one).2.capacity = history.capacity := by
  cases one with
  | add text => exact history.capacity_add text
  | previous => exact history.agrees_previous.capacity
  | next => exact history.agrees_next.capacity
  | clear => exact absurd rfl keeps
  | setCapacity capacity => exact absurd rfl keeps

/-- If the entries are the newest of the texts, as many as the capacity allows, they are that after
each step that takes none away. -/
theorem Valid.newest_step (valid : history.Valid)
    (newest : history.entries = (collapsed texts).rtake history.capacity) {one : Step}
    (keeps : ¬ one.removes) :
    (history.step one).2.entries = (collapsed (addedWith texts one)).rtake history.capacity := by
  cases one with
  | add text =>
    change (history.add text).entries = (collapsed (texts ++ [text])).rtake history.capacity
    rw [valid.entries_add, newest, rtake_appended, collapsed_concat]
  | previous => exact history.agrees_previous.entries.trans newest
  | next => exact history.agrees_next.entries.trans newest
  | clear => exact absurd rfl keeps
  | setCapacity capacity => exact absurd rfl keeps

/-- If the entries are a suffix of the texts, they are that after each step. -/
theorem Valid.suffix_step (valid : history.Valid) (suffix : history.entries <:+ collapsed texts)
    (one : Step) : (history.step one).2.entries <:+ collapsed (addedWith texts one) := by
  cases one with
  | add text =>
    change (history.add text).entries <:+ collapsed (texts ++ [text])
    rw [valid.entries_add, collapsed_concat]
    exact (rtake_suffix _ _).trans (suffix_appended text suffix)
  | previous => exact history.agrees_previous.entries ▸ suffix
  | next => exact history.agrees_next.entries ▸ suffix
  | clear => exact List.nil_suffix
  | setCapacity capacity =>
    change (history.setCapacity capacity).entries <:+ collapsed texts
    rw [setCapacity_eq]
    exact (rtake_suffix _ _).trans suffix

/-- **While nothing is removed, the newest texts are kept**, with adjacent duplicates kept once. -/
theorem Valid.newest_steps (valid : history.Valid)
    (newest : history.entries = (collapsed texts).rtake history.capacity) {taken : List Step}
    (keep : ∀ one ∈ taken, ¬ one.removes) :
    (history.steps taken).entries =
      (collapsed (taken.foldl addedWith texts)).rtake history.capacity := by
  induction taken generalizing history texts with
  | nil => exact newest
  | cons one later ih =>
    obtain ⟨keeps, keepLater⟩ := List.forall_mem_cons.mp keep
    have capacity := history.capacity_step keeps
    have step := valid.newest_step newest keeps
    rw [← capacity] at step ⊢
    exact ih (valid.step one) step keepLater

/-- **Whatever is done, the entries are the end of the texts that were added**, with adjacent
duplicates kept once. -/
theorem Valid.suffix_steps (valid : history.Valid) (suffix : history.entries <:+ collapsed texts)
    (taken : List Step) :
    (history.steps taken).entries <:+ collapsed (taken.foldl addedWith texts) := by
  induction taken generalizing history texts with
  | nil => exact suffix
  | cons one later ih => exact ih (valid.step one) (valid.suffix_step suffix one)

end Steps

/-- **What a history retains** of the texts that were added to it. While they are only added and
browsed, it holds the newest of them, as many as its capacity allows, with adjacent duplicates kept
once. In every case it holds a suffix of those added since it was last cleared. Another capacity
leaves the newest entries, as many as there are or as it allows; browsing ends if an entry went for
that, and stays at its place if none did. -/
theorem steps_retain (capacity : Nat) (taken : List Step) :
    let history := (empty capacity).steps taken
    ((∀ one ∈ taken, ¬ one.removes) →
        history.entries = (collapsed (added taken)).rtake capacity) ∧
      history.entries <:+ collapsed (added taken) ∧
      ∀ size, let cut := history.setCapacity size
        cut.capacity = size ∧
          cut.entries = history.entries.rtake (min size history.length) ∧
          (cut.length < history.length → cut.browsing = none) ∧
          (cut.length = history.length → cut.browsing = history.browsing) := by
  intro history
  have valid := Valid.empty capacity
  have nothing : (empty capacity).entries = (collapsed []).rtake capacity :=
    (List.rtake_nil capacity).symm
  refine ⟨valid.newest_steps nothing, valid.suffix_steps List.nil_suffix taken, ?_⟩
  intro size cut
  have cut_eq : cut = _ := history.setCapacity_eq size
  have length : cut.length = min size history.length := by
    rw [cut_eq]
    change (history.entries.drop (history.entries.length - _)).length = _
    rw [List.length_drop]
    change history.length - (history.length - _) = _
    omega
  refine ⟨congrArg History.capacity cut_eq, congrArg History.entries cut_eq, ?_, ?_⟩
  · intro fewer
    have larger : size < history.length := by omega
    rw [cut_eq]
    exact if_pos larger
  · intro same
    have fits : ¬ size < history.length := by omega
    rw [cut_eq]
    exact if_neg fits

/-- Two of three texts stay, one of which was added twice in a row while the other entry was looked
at. -/
theorem steps_retain_newest :
    let taken : List Step :=
      [.add "a", .previous, .add "b", .add "b", .previous, .next, .add "c"]
    (∀ one ∈ taken, ¬ one.removes) ∧ ((empty 2).steps taken).entries = ["b", "c"] := by
  intro taken
  have keep : ∀ one ∈ taken, ¬ one.removes := by decide
  refine ⟨keep, ((steps_retain 2 taken).1 keep).trans ?_⟩
  decide

end PromptLine.History
