import PromptLine.Proofs.Session.Outcome

/-!
# Where the text of a line comes from

A key that changes the text has the line painted (`PromptLine.Editor.text_handled`), and every
character that it brings in was typed, belongs to an entry of the history or is a space
(`PromptLine.Editor.forall_handled`). So a line has no line breaks if the history has none.
-/

namespace PromptLine

namespace History
variable {history : History} {entry : String}

/-- The entry that is shown on the way back is one of the history. -/
theorem mem_of_previous (shown : history.previous.1 = some entry) : entry ∈ history.entries := by
  unfold previous at shown
  split at shown
  · cases shown
  · exact List.mem_of_getElem? shown

/-- The entry that is shown on the way forward is one of the history. -/
theorem mem_of_next (shown : history.next.1 = some entry) : entry ∈ history.entries := by
  unfold next at shown
  split at shown
  · split at shown
    · exact List.mem_of_getElem? shown
    · cases shown
  · cases shown

/-- What is in the history after a text was entered was there before, or is that text. -/
theorem mem_entries_add {text : String} (member : entry ∈ (history.add text).entries) :
    entry ∈ history.entries ∨ entry = text := by
  have inside : entry ∈ history.entriesWith text := by
    unfold add at member
    dsimp only at member
    split at member
    · exact List.mem_of_mem_tail member
    · exact member
  unfold entriesWith at inside
  split at inside
  · exact Or.inl inside
  · exact (List.mem_append.mp inside).imp_right List.mem_singleton.mp

end History

/-- A character of a line after an insertion was inserted or was there before. -/
theorem Line.mem_text_insert {line : Line} {added : List Char} {c : Char}
    (member : c ∈ (line.insert added).text) : c ∈ added ∨ c ∈ line.text := by
  rcases List.mem_append.mp member with before | later
  · exact Or.inr (List.mem_of_mem_take before)
  · exact (List.mem_append.mp later).imp_right List.mem_of_mem_drop

namespace Editor

/-! ### What is painted -/

/-- The text stays when nothing but the cursor has to be painted. -/
theorem text_withLine? (editor : Editor) {paint : Editing.Paint} {line? : Option Line}
    (kept : paint ≠ .line → ∀ next, line? = some next → next.text = editor.line.text)
    (unpainted : (Editing.withLine? editor paint line?).2 ≠ .line) :
    (Editing.withLine? editor paint line?).1.line.text = editor.line.text := by
  cases line? with
  | none => rfl
  | some next => exact kept unpainted next rfl

/-- An action after which the line is not painted leaves the text as it is. -/
theorem text_edited {editor : Editor} {action : Action}
    (unpainted : (Editing.edited editor action).2 ≠ .line) :
    (Editing.edited editor action).1.line.text = editor.line.text := by
  cases action with
  | escape | tab => exact absurd rfl unpainted
  | home | toEnd | enter => rfl
  | moveLeft =>
    refine text_withLine? _ (fun _ next moved => ?_) unpainted
    rw [Line.eq_of_left? moved]
  | moveRight =>
    refine text_withLine? _ (fun _ next moved => ?_) unpainted
    rw [Line.eq_of_right? moved]
  | backspace | delete | historyPrevious | historyNext =>
    exact text_withLine? _ (absurd rfl) unpainted

/-- Without painting the line, a key leaves the text as it is. -/
theorem text_handled (editor : Editor) (key : Key) (unpainted : (editor.handled key).2 ≠ .line) :
    (editor.handled key).1.line.text = editor.line.text := by
  unfold handled at unpainted ⊢
  cases bound : editor.bindings.find? key with
  | some action =>
    rw [bound] at unpainted
    exact text_edited unpainted
  | none =>
    rw [bound] at unpainted
    by_cases printable : key.isPrintable
    · simp only [printable, ↓reduceIte] at unpainted
      exact absurd rfl unpainted
    · simp only [printable, Bool.false_eq_true, ↓reduceIte]

/-- An edit that calls for no painting is one that had nowhere to go. -/
theorem line_withLine? {editor : Editor} {paint : Editing.Paint} {line? : Option Line}
    (paints : paint ≠ .nothing) (unpainted : (Editing.withLine? editor paint line?).2 = .nothing) :
    (Editing.withLine? editor paint line?).1.line = editor.line := by
  cases line? with
  | none => rfl
  | some next => exact absurd unpainted paints

/-- An action after which nothing is painted leaves the cursor where it is. -/
theorem cursor_edited {editor : Editor} {action : Action}
    (unpainted : (Editing.edited editor action).2 = .nothing) :
    (Editing.edited editor action).1.line.cursor = editor.line.cursor := by
  cases action with
  | escape | home | toEnd | tab => cases unpainted
  | enter => rfl
  | moveLeft | moveRight | backspace | delete | historyPrevious | historyNext =>
    exact congrArg Line.cursor (line_withLine? nofun unpainted)

/-- Without painting, a key leaves the cursor of the line where it is. -/
theorem cursor_handled (editor : Editor) (key : Key)
    (unpainted : (editor.handled key).2 = .nothing) :
    (editor.handled key).1.line.cursor = editor.line.cursor := by
  unfold handled at unpainted ⊢
  cases bound : editor.bindings.find? key with
  | some action =>
    rw [bound] at unpainted
    exact cursor_edited unpainted
  | none =>
    rw [bound] at unpainted
    by_cases printable : key.isPrintable
    · simp only [printable, ↓reduceIte] at unpainted
      cases unpainted
    · simp only [printable, Bool.false_eq_true, ↓reduceIte]

/-! ### What is brought in -/

section Source
variable {editor : Editor} {source : Char → Prop} (text : ∀ c ∈ editor.line.text, source c)
  (entries : ∀ entry ∈ editor.history.entries, ∀ c ∈ entry.toList, source c) (space : source ' ')
include text

/-- The characters come from a source if those of the line that is brought do. -/
theorem forall_withLine? {history : History} {paint : Editing.Paint} {line? : Option Line}
    (brought : ∀ next, line? = some next → ∀ c ∈ next.text, source c) :
    ∀ c ∈ (Editing.withLine? { editor with history } paint line?).1.line.text, source c := by
  cases line? with
  | none => exact text
  | some next => exact brought next rfl

include entries in
/-- The characters come from a source if the entry that is shown is one of the history. -/
theorem forall_withEntry {browsed : Option String × History}
    (shown : ∀ entry, browsed.1 = some entry → entry ∈ editor.history.entries) :
    ∀ c ∈ (Editing.withEntry editor browsed).1.line.text, source c := by
  refine forall_withLine? text (fun next replaced => ?_)
  obtain ⟨entry, found, rfl⟩ := Option.map_eq_some_iff.mp replaced
  exact entries entry (shown entry found)

include entries space

/-- **An action brings in no characters** but those of the entries and spaces. -/
theorem forall_edited (action : Action) :
    ∀ c ∈ (Editing.edited editor action).1.line.text, source c := by
  cases action with
  | escape => exact List.forall_mem_nil _
  | home | toEnd | enter => exact text
  | moveLeft =>
    refine forall_withLine? text fun next moved => ?_
    rw [Line.eq_of_left? moved]
    exact text
  | moveRight =>
    refine forall_withLine? text fun next moved => ?_
    rw [Line.eq_of_right? moved]
    exact text
  | historyPrevious =>
    exact forall_withEntry text entries fun _ => History.mem_of_previous
  | historyNext =>
    exact forall_withEntry text entries fun _ => History.mem_of_next
  | backspace =>
    refine forall_withLine? text fun next shorter c member => ?_
    rw [Line.eq_of_backspace? shorter] at member
    exact text c (List.mem_of_mem_eraseIdx member)
  | delete =>
    refine forall_withLine? text fun next shorter c member => ?_
    rw [Line.eq_of_delete? shorter] at member
    exact text c (List.mem_of_mem_eraseIdx member)
  | tab =>
    intro c member
    rcases Line.mem_text_insert member with added | old
    · exact (List.eq_of_mem_replicate added) ▸ space
    · exact text c old

/-- **Where the characters come from**: the text, the history, the tab key and the keyboard. -/
theorem forall_handled {key : Key} (typed : key.isPrintable → source key.character) :
    ∀ c ∈ (editor.handled key).1.line.text, source c := by
  unfold handled
  cases editor.bindings.find? key with
  | some action => exact forall_edited text entries space action
  | none =>
    by_cases printable : key.isPrintable
    · simp only [printable, ↓reduceIte]
      intro c member
      have parts : c ∈ [key.character] ∨ c ∈ editor.line.text := Line.mem_text_insert member
      rcases parts with added | old
      · exact (List.mem_singleton.mp added) ▸ typed printable
      · exact text c old
    · simp only [printable, Bool.false_eq_true, ↓reduceIte]
      exact text

end Source

/-- **No line breaks**, neither in what is painted nor in what the history may show. -/
structure Plain (editor : Editor) : Prop where
  prompt : '\n' ∉ editor.line.prompt.toList
  text : '\n' ∉ editor.line.text
  entries : ∀ entry ∈ editor.history.entries, '\n' ∉ entry.toList

/-- A key keeps an editor plain. -/
theorem Plain.handled {editor : Editor} (plain : editor.Plain) (key : Key) :
    (editor.handled key).1.Plain := by
  have typed : key.isPrintable → key.character ≠ '\n' := by
    intro printable same
    rw [Key.isPrintable, same] at printable
    exact absurd printable (by decide)
  have old : ∀ c ∈ editor.line.text, c ≠ '\n' := fun c member same => plain.text (same ▸ member)
  have listed : ∀ entry ∈ editor.history.entries, ∀ c ∈ entry.toList, c ≠ '\n' :=
    fun entry member c inside same => plain.entries entry member (same ▸ inside)
  have text : ∀ c ∈ (editor.handled key).1.line.text, c ≠ '\n' :=
    forall_handled old listed (by decide) typed
  constructor
  · rw [editor.prompt_handled]
    exact plain.prompt
  · exact fun member => text _ member rfl
  · rw [(editor.keepsHistory_handled key).history.entries]
    exact plain.entries

/-- Painting keeps an editor plain. -/
theorem Repaints.plain {before after : Editor} (repaints : before.Repaints after)
    (plain : before.Plain) : after.Plain := by
  rw [repaints]
  exact ⟨plain.prompt, plain.text, plain.entries⟩

end Editor

end PromptLine
