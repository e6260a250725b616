import PromptLine.Proofs.Console.Performing
import PromptLine.Terminal.Scripted

/-!
# What a key does

A key that was pressed stands for a character exactly if it is the key of that character, the
character is not a control character, and control is not held without alt
(`PromptLine.Key.isPrintable_press`). What the key does is decided by the first binding of the table
that is about it, whatever comes later (`PromptLine.Bindings.find?_eq_some`). Without one the
character is typed, and a key that stands for none does nothing at all. All of this holds whatever
the terminal answers (`PromptLine.Console.handle_press`).

A table with more bindings at its end makes no difference to a key that the table is about. Since
painting never looks at the table, this is so for all that happens, not only for the action
(`PromptLine.Editing.dialogue_paint_withBindings`).
-/

namespace PromptLine

namespace Key

/-- **The key types a character**: it is that character's key, the character is not a control
character, and control is not held, unless alt is held too. -/
def Types (code : KeyCode) (modifiers : Modifiers) (c : Char) : Prop :=
  code = .char c ∧ 0x20 ≤ c.toNat ∧ (modifiers.control → modifiers.alt)

variable {code : KeyCode} {modifiers : Modifiers} {c : Char}

/-- The printable characters are those from the space on. -/
theorem isPrintable_iff (key : Key) : key.isPrintable ↔ 0x20 ≤ key.character.toNat := by
  unfold isPrintable
  rw [decide_eq_true_iff, Char.le_def, UInt32.le_iff_toNat_le]
  exact Iff.rfl

/-- A control code is a control character. -/
theorem toNat_controlCode_lt (c : Char) : (controlCode c).toNat < 0x20 := by
  unfold controlCode
  split
  · have small : c.toNat % 32 < 0x20 := Nat.mod_lt _ (by decide)
    have valid : (c.toNat % 32).isValidChar := .inl (by omega)
    rw [Char.ofNat, dif_pos valid]
    exact small
  · decide

/-- The control key makes a control code unless the alt key is held too. -/
theorem makesControlCode_iff :
    modifiers.makesControlCode ↔ ¬ (modifiers.control → modifiers.alt) := by
  simp [Modifiers.makesControlCode]

/-- A key that types a character carries it when it is pressed. -/
theorem character_press_of_types (types : Types code modifiers c) :
    (press code modifiers).character = c := by
  obtain ⟨rfl, -, held⟩ := types
  exact if_neg fun makesCode => makesControlCode_iff.mp makesCode held

/-- A key that types nothing stands for a control character. -/
theorem toNat_character_press_lt (silent : ¬ ∃ c, Types code modifiers c) :
    (press code modifiers).character.toNat < 0x20 := by
  cases code with
  | char c =>
    by_cases held : modifiers.control → modifiers.alt
    · have character : (press (.char c) modifiers).character = c :=
        if_neg fun makesCode => makesControlCode_iff.mp makesCode held
      rw [character]
      exact Nat.lt_of_not_le fun printable => silent ⟨c, rfl, printable, held⟩
    · have character : (press (.char c) modifiers).character = controlCode c :=
        if_pos (makesControlCode_iff.mpr held)
      rw [character]
      exact toNat_controlCode_lt c
  | _ => exact of_decide_eq_true rfl

/-- **A key that was pressed is printable** exactly if it types a character. -/
theorem isPrintable_press :
    (press code modifiers).isPrintable ↔ ∃ c, Types code modifiers c := by
  rw [isPrintable_iff]
  constructor
  · intro printable
    by_cases types : ∃ c, Types code modifiers c
    · exact types
    · exact absurd printable (Nat.not_le.mpr (toNat_character_press_lt types))
  · intro ⟨c, types⟩
    rw [character_press_of_types types]
    exact types.2.1

/-- A key pressed on its own is printable just if it is the key of a printable character. -/
theorem isPrintable_ofCode : (ofCode code).isPrintable ↔ ∃ c, code = .char c ∧ 0x20 ≤ c.toNat := by
  rw [ofCode, isPrintable_press]
  simp [Types, Modifiers.none]

/-- The key of a character is as printable as the character. -/
theorem isPrintable_ofChar : (ofChar c).isPrintable ↔ 0x20 ≤ c.toNat := by
  rw [ofChar, isPrintable_ofCode]
  simp

end Key

/-- The binding is about the key with this code while exactly these modifiers are held. -/
def Binding.IsFor (code : KeyCode) (modifiers : Modifiers) (binding : Binding) : Prop :=
  binding.code = code ∧ binding.modifiers = modifiers

instance (code : KeyCode) (modifiers : Modifiers) (binding : Binding) :
    Decidable (binding.IsFor code modifiers) :=
  inferInstanceAs (Decidable (_ ∧ _))

/-- A binding matches a key just if it is for its code and its modifiers. -/
theorem Binding.matchesKey_iff (key : Key) (binding : Binding) :
    binding.matchesKey key ↔ binding.IsFor key.code key.modifiers := by
  simp [matchesKey, IsFor]

namespace Bindings

variable {bindings : Bindings} {key : Key} {action : Action}

/-- A key is unbound just if no binding is for it. -/
theorem find?_eq_none : bindings.find? key = none ↔
    ∀ binding ∈ bindings.entries, ¬ binding.IsFor key.code key.modifiers := by
  simp [find?, Binding.matchesKey_iff]

/-- **The first binding about a key** decides. -/
theorem find?_eq_some {before after : List Binding} {binding : Binding}
    (split : bindings.entries = before ++ binding :: after)
    (others : ∀ earlier ∈ before, ¬ earlier.IsFor key.code key.modifiers)
    (isFor : binding.IsFor key.code key.modifiers) :
    bindings.find? key = some binding.action := by
  have found : bindings.entries.find? (Binding.matchesKey key) = some binding := by
    apply List.find?_eq_some_iff_append.mpr
    refine ⟨(binding.matchesKey_iff key).mpr isFor, before, after, split, ?_⟩
    intro earlier member
    have unmatched := mt (earlier.matchesKey_iff key).mp (others earlier member)
    rw [Bool.not_eq_true] at unmatched
    rw [unmatched]
    rfl
  exact congrArg (Option.map Binding.action) found

/-- A binding that is added changes nothing about a bound key. -/
theorem find?_add (added : Binding) (bound : bindings.find? key ≠ none) :
    (bindings.add added).find? key = bindings.find? key := by
  obtain ⟨action, found⟩ := Option.ne_none_iff_exists'.mp bound
  obtain ⟨binding, first, named⟩ := Option.map_eq_some_iff.mp found
  unfold find? add
  rw [List.find?_append, first]
  rfl

/-- A table with more bindings at its end. -/
def addAll (added : List Binding) (bindings : Bindings) : Bindings :=
  added.foldl (fun table binding => table.add binding) bindings

/-- Bindings at the end of a table make no difference to a key that the table is about. -/
theorem find?_addAll (added : List Binding) (bound : bindings.find? key ≠ none) :
    (bindings.addAll added).find? key = bindings.find? key := by
  induction added generalizing bindings with
  | nil => rfl
  | cons binding rest ih =>
    have same := find?_add binding bound
    exact (ih (same ▸ bound)).trans same

end Bindings

namespace Editor

variable {bindings : Bindings} {editor : Editor} {key : Key}

/-- The editor with another table of bindings. -/
def withBindings (bindings : Bindings) (editor : Editor) : Editor :=
  { editor with bindings := bindings }

/-- A table that says the same about a key makes the same of it. -/
theorem handled_withBindings (same : bindings.find? key = editor.bindings.find? key) :
    (editor.withBindings bindings).handled key =
      ((editor.handled key).1.withBindings bindings, (editor.handled key).2) := by
  apply (handled_with key editor editor.geometry same).trans
  rw [← geometry_handled editor key]
  rfl

/-- What is noted about a key depends on the bindings only through what the key is bound to. -/
theorem noticeOf_withBindings (same : bindings.find? key = editor.bindings.find? key) :
    (editor.withBindings bindings).noticeOf key = editor.noticeOf key := by
  unfold noticeOf withBindings
  dsimp only
  rw [same]

end Editor

namespace Editing

variable {α : Type} (bindings : Bindings) (editor : Editor)

/-- What an operation comes to, with another table of bindings in the editor that it leaves. -/
def withTable (reached : Except TerminalError α × Editor) : Except TerminalError α × Editor :=
  (reached.1, reached.2.withBindings bindings)

/-- Painting never looks at the bindings. -/
theorem dialogue_placeCursor_withBindings :
    dialogue placeCursor (editor.withBindings bindings) =
      dialogue placeCursor editor >>= fun reached => .done (withTable bindings reached) := by
  unfold placeCursor
  rw [dialogue_get_bind, dialogue_get_bind]
  obtain ⟨line, geometry, history, table, settings⟩ := editor
  cases geometry with
  | none => rfl
  | some geometry => rfl

/-- Painting the line does not look at the bindings. -/
theorem dialogue_repaint_withBindings :
    dialogue repaint (editor.withBindings bindings) =
      dialogue repaint editor >>= fun reached => .done (withTable bindings reached) := by
  unfold repaint
  rw [dialogue_get_bind, dialogue_get_bind]
  obtain ⟨line, geometry, history, table, settings⟩ := editor
  cases geometry with
  | none => rfl
  | some geometry =>
    refine congrArg (Dialogue.ask _) (funext fun moved => ?_)
    cases moved with
    | error failure => rfl
    | ok _ =>
      refine congrArg (Dialogue.ask _) (funext fun written => ?_)
      cases written with
      | error failure => rfl
      | ok _ =>
        let painted := some (geometry.recordPaint line.printedLength).2
        exact dialogue_placeCursor_withBindings bindings ⟨line, painted, history, table, settings⟩

/-- **Painting never looks at the bindings.** -/
theorem dialogue_paint_withBindings (changed : Paint) :
    dialogue (paint changed) (editor.withBindings bindings) =
      dialogue (paint changed) editor >>= fun reached => .done (withTable bindings reached) := by
  cases changed with
  | nothing => rfl
  | cursor => exact dialogue_placeCursor_withBindings bindings editor
  | line => exact dialogue_repaint_withBindings bindings editor

/-- A key about which another table says the same does the same. -/
theorem dialogue_handle_withBindings {bindings : Bindings} {editor : Editor} {key : Key}
    (same : bindings.find? key = editor.bindings.find? key) :
    dialogue (handle key) (editor.withBindings bindings) =
      dialogue (handle key) editor >>= fun reached => .done (withTable bindings reached) := by
  rw [dialogue_handle, dialogue_handle, Editor.noticeOf_withBindings same,
    Editor.handled_withBindings same, dialogue_paint_withBindings]
  rfl

end Editing

namespace Console

variable {σ : Type}

/-- The console with another table of bindings. -/
def withBindings (bindings : Bindings) (console : Console σ) : Console σ :=
  { console with editor := console.editor.withBindings bindings }

/-- The console with another line. -/
def withLine (line : Line) (console : Console σ) : Console σ :=
  { console with editor := { console.editor with line := line } }

variable (device : Terminal σ) (console : Console σ)

/-- **What the table does not say about a key** makes no difference to what happens. -/
theorem handle_withBindings {bindings : Bindings} {key : Key}
    (same : bindings.find? key = console.editor.bindings.find? key) :
    let performed := console.perform device (Editing.handle key)
    let other := console.withBindings bindings
    other.perform device (Editing.handle key) = (performed.1, performed.2.withBindings bindings) ∧
      other.course device (Editing.handle key) = console.course device (Editing.handle key) := by
  intro performed other
  have dialogue : Editing.dialogue (Editing.handle key) other.editor =
      Editing.dialogue (Editing.handle key) console.editor >>= fun reached =>
        .done (Editing.withTable bindings reached) := Editing.dialogue_handle_withBindings same
  constructor
  · rw [perform_eq, dialogue, Dialogue.play_bind]
    rfl
  · unfold course
    rw [dialogue]
    exact (Dialogue.course_bind device _ _ other.stage).trans (List.append_nil _)

/-- **A key that the table is about**: the first binding about it decides. -/
theorem handle_bound {key : Key} {before after : List Binding} {binding : Binding}
    (split : console.editor.bindings.entries = before ++ binding :: after)
    (others : ∀ earlier ∈ before, ¬ earlier.IsFor key.code key.modifiers)
    (isFor : binding.IsFor key.code key.modifiers) :
    console.perform device (Editing.handle key) =
      (console.notes (.dispatched binding.action key)).perform device
        (Editing.act binding.action) := by
  unfold Editing.handle
  rw [perform_get_bind, Bindings.find?_eq_some split others isFor]
  exact perform_bind_of_ok (perform_note device console _)

/-- **A key that is typed.** Its character is put in at the cursor, whatever the terminal answers,
and the line is painted. -/
theorem handle_typed {key : Key} (unbound : console.editor.bindings.find? key = none)
    (printable : key.isPrintable) :
    let typed := console.withLine (console.editor.line.insertChar key.character)
    let performed := console.perform device (Editing.handle key)
    performed = (typed.notes (.inserted key.character)).perform device Editing.repaint ∧
      typed.editor.Repaints performed.2.editor := by
  intro typed performed
  have painted : performed =
      (typed.notes (.inserted key.character)).perform device Editing.repaint := by
    change console.perform device (Editing.handle key) = _
    unfold Editing.handle
    rw [perform_get_bind, unbound]
    dsimp only
    rw [if_pos printable, perform_bind_of_ok (perform_note device console _)]
    exact perform_bind_of_ok (perform_modify device _ _)
  refine ⟨painted, ?_⟩
  rw [painted]
  exact perform_of_ensures device _ (Editing.respects_repaint _)

/-- **A key that is ignored** is noted, and that is all. -/
theorem handle_ignored {key : Key} (unbound : console.editor.bindings.find? key = none)
    (silent : ¬ key.isPrintable) :
    console.perform device (Editing.handle key) = (.ok (), console.notes (.ignored key)) ∧
      console.course device (Editing.handle key) = [.noted (.ignored key)] := by
  have ignored : Editing.dialogue (Editing.handle key) console.editor =
      .note (.ignored key) (.done (.ok (), console.editor)) := by
    unfold Editing.handle
    rw [Editing.dialogue_get_bind, unbound]
    dsimp only
    rw [if_neg silent]
    rfl
  unfold perform course
  rw [ignored]
  exact ⟨rfl, rfl⟩

/-- **What a key that was pressed does**, whatever the terminal answers. It is printable exactly if
it types a character, which then is the one that it stands for. A key that the table is not about
is typed if it types a character, and otherwise nothing changes and the terminal is not called. For
any other key the first binding about it decides, and more bindings at the end of the table change
nothing. -/
theorem handle_press (code : KeyCode) (modifiers : Modifiers) :
    let key := Key.press code modifiers
    let bindings := console.editor.bindings
    let performed := console.perform device (Editing.handle key)
    (key.isPrintable ↔ ∃ c, Key.Types code modifiers c) ∧
    (∀ c, Key.Types code modifiers c → key.character = c) ∧
    ((Key.ofCode code).isPrintable ↔ ∃ c, code = .char c ∧ 0x20 ≤ c.toNat) ∧
    (∀ c, (Key.ofChar c).isPrintable ↔ 0x20 ≤ c.toNat) ∧
    ((∀ binding ∈ bindings.entries, ¬ binding.IsFor code modifiers) →
      (∀ c, Key.Types code modifiers c →
        let line := console.editor.line
        let typed := console.withLine { line with
          text := line.text.take line.cursor ++ c :: line.text.drop line.cursor
          cursor := line.cursor + 1 }
        performed = (typed.notes (.inserted c)).perform device Editing.repaint ∧
          typed.editor.Repaints performed.2.editor) ∧
      ((¬ ∃ c, Key.Types code modifiers c) →
        performed = (.ok (), console.notes (.ignored key)) ∧
          Moment.exchanges (console.course device (Editing.handle key)) = [])) ∧
    ∀ before binding after, bindings.entries = before ++ binding :: after →
      (∀ earlier ∈ before, ¬ earlier.IsFor code modifiers) → binding.IsFor code modifiers →
      performed = (console.notes (.dispatched binding.action key)).perform device
          (Editing.act binding.action) ∧
        ∀ added,
          let longer := console.withBindings (bindings.addAll added)
          longer.perform device (Editing.handle key) =
              (performed.1, performed.2.withBindings (bindings.addAll added)) ∧
            longer.course device (Editing.handle key) =
              console.course device (Editing.handle key) := by
  intro key bindings performed
  refine ⟨Key.isPrintable_press, fun c => Key.character_press_of_types, Key.isPrintable_ofCode,
    fun c => Key.isPrintable_ofChar, ?unbound, ?bound⟩
  case unbound =>
    intro others
    have unbound : bindings.find? key = none := Bindings.find?_eq_none.mpr others
    constructor
    · intro c types line typed
      have character : key.character = c := Key.character_press_of_types types
      have printable : key.isPrintable := Key.isPrintable_press.mpr ⟨c, types⟩
      have done := handle_typed device console unbound printable
      rw [character] at done
      exact done
    · intro silent
      obtain ⟨done, course⟩ :=
        handle_ignored device console unbound (mt Key.isPrintable_press.mp silent)
      refine ⟨done, ?_⟩
      rw [course]
      rfl
  case bound =>
    intro before binding after split others isFor
    refine ⟨handle_bound device console split others isFor, fun added => ?_⟩
    have decided : bindings.find? key = some binding.action :=
      Bindings.find?_eq_some split others isFor
    have found : bindings.find? key ≠ none := fun missing => nomatch decided.symm.trans missing
    exact handle_withBindings device console (Bindings.find?_addAll added found)

/-- A key that is typed although control is held, one that is ignored, and one that a longer table
is about twice. -/
theorem handle_press_altGr :
    let line : Line := { text := "ab".toList, cursor := 1 }
    let console : Console Script :=
      { editor := { Editor.standard with line := line }
        stage := { terminal := { inputs := [], width := 80 } } }
    let longer := console.withBindings (Bindings.standard.addAll [⟨.enter, .none, .escape⟩])
    let altGr : Modifiers := { control := true, alt := true }
    let after (start : Console Script) (code : KeyCode) (modifiers : Modifiers) : Editor :=
      (start.perform Script.terminal (Editing.handle (.press code modifiers))).2.editor
    (after console (.char '€') altGr).line.text = "a€b".toList ∧
      after console (.char 'k') .controlOnly = console.editor ∧
      after longer .enter .none = { longer.editor with line := line.finish } := by
  intro line console longer altGr after
  obtain ⟨-, -, -, -, unbound, -⟩ := handle_press Script.terminal console (.char '€') altGr
  obtain ⟨typed, -⟩ := unbound (by decide)
  obtain ⟨-, repaints⟩ := typed '€' ⟨rfl, by decide, fun _ => rfl⟩
  obtain ⟨-, -, -, -, other, -⟩ := handle_press Script.terminal console (.char 'k') .controlOnly
  obtain ⟨-, silent⟩ := other (by decide)
  obtain ⟨ignored, -⟩ := silent fun ⟨_, _, _, held⟩ => nomatch held rfl
  obtain ⟨-, -, -, -, -, bound⟩ := handle_press Script.terminal console .enter .none
  obtain ⟨-, appended⟩ := bound (Bindings.standard.entries.take 9) ⟨.enter, .none, .enter⟩
    (Bindings.standard.entries.drop 10) rfl (by decide) ⟨rfl, rfl⟩
  obtain ⟨same, -⟩ := appended [⟨.enter, .none, .escape⟩]
  refine ⟨?_, ?_, ?_⟩
  · exact congrArg Line.text repaints.line_eq
  · exact congrArg (fun performed => performed.2.editor) ignored
  · exact congrArg (fun performed => performed.2.editor) same

end Console

end PromptLine
