import PromptLine.Proofs.Session.Attending

/-!
# What happens in a session

A session reads keys, fits its line to the terminal when the width has changed, and hands the keys
to the editor. What happens to it is told here without the calls and the events: one case for each
way in which a session may go on (`PromptLine.Console.Unfolds`) and one for each way in which it may
stop (`PromptLine.Console.Stops`). Every session stops in one of these ways
(`PromptLine.Console.stops_session`).
-/

namespace PromptLine

/-- **Something that happens in a session.** -/
inductive Incident where
  /-- A key was handed to an editor. -/
  | handed (key : Key) (editor : Editor)
  /-- A line was fitted to another width. -/
  | resized (before after : Geometry)

namespace Incident

/-- Whether a key was handed over. -/
def isHanded : Incident → Bool
  | .handed _ _ => true
  | .resized _ _ => false

/-- What happened when a line was fitted to the terminal: nothing, unless the width changed. -/
def ofFitting (before after : Editor) : List Incident :=
  match before.geometry, after.geometry with
  | some old, some new => if new.width = old.width then [] else [.resized old new]
  | _, _ => []

/-- Nothing happens when the line fits as it is. -/
theorem ofFitting_self (editor : Editor) : ofFitting editor editor = [] := by
  unfold ofFitting
  cases editor.geometry with
  | none => rfl
  | some geometry => exact if_pos rfl

/-- A line that was fitted to another width was resized. -/
theorem ofFitting_of_ne {before after : Editor} {old new : Geometry}
    (located : before.geometry = some old) (fitted : after.geometry = some new)
    (changed : new.width ≠ old.width) : ofFitting before after = [.resized old new] := by
  unfold ofFitting
  rw [located, fitted]
  exact if_neg changed

end Incident

namespace Console

variable {σ : Type}

/-- **A session unfolds** up to a state in which it is known whether the line was entered: these
are the incidents on the way. -/
inductive Unfolds (device : Terminal σ) (prompt : String) (start : Console σ) :
    List Incident → Console σ → Prop where
  /-- The session began. -/
  | begun {console : Console σ}
      (begun : start.perform device (Editing.begin prompt) = (.ok (), console)) :
      Unfolds device prompt start [] console
  /-- A key was read, the line was fitted to the terminal, and the key was handed on. -/
  | heard {incidents : List Incident} {key : Key} {console read fitted next : Console σ}
      (earlier : Unfolds device prompt start incidents console)
      (goesOn : ¬ console.editor.line.finished)
      (heard : console.perform device (Editing.call (.readKey true)) = (.ok (some key), read))
      (fits : read.perform device Editing.refreshGeometry = (.ok (), fitted))
      (handles : fitted.perform device (do Editing.handle key; Editing.call .flush) =
        (.ok (), next)) :
      Unfolds device prompt start
        (incidents ++ Incident.ofFitting read.editor fitted.editor ++
          [.handed key fitted.editor]) next

/-- **A session stops**: these are all of its incidents, its result, and the console that it
leaves. -/
inductive Stops (device : Terminal σ) (prompt : String) (start : Console σ) :
    List Incident → Except TerminalError (Option Reading) → Console σ → Prop where
  /-- It did not begin. -/
  | notBegun {failure : TerminalError} {last : Console σ}
      (failed : start.perform device (Editing.begin prompt) = (.error failure, last)) :
      Stops device prompt start [] (.error failure) last
  /-- The line was entered. It may not have been committed. -/
  | entered {incidents : List Incident} {console last : Console σ}
      {result : Except TerminalError Reading}
      (unfolds : Unfolds device prompt start incidents console)
      (finished : console.editor.line.finished)
      (commits : console.perform device Editing.commit = (result, last)) :
      Stops device prompt start incidents (some <$> result) last
  /-- The input ended. The terminal may have failed after that. -/
  | ended {incidents : List Incident} {console read last : Console σ}
      {result : Except TerminalError Reading}
      (unfolds : Unfolds device prompt start incidents console)
      (goesOn : ¬ console.editor.line.finished)
      (heard : console.perform device (Editing.call (.readKey true)) = (.ok none, read))
      (abandons : read.perform device Editing.abandon = (result, last)) :
      Stops device prompt start incidents (some <$> result) last
  /-- No more keys may be read. -/
  | waiting {incidents : List Incident} {console : Console σ}
      (unfolds : Unfolds device prompt start incidents console)
      (goesOn : ¬ console.editor.line.finished) :
      Stops device prompt start incidents (.ok none) console
  /-- A read failed. -/
  | notHeard {incidents : List Incident} {console last : Console σ} {failure : TerminalError}
      (unfolds : Unfolds device prompt start incidents console)
      (goesOn : ¬ console.editor.line.finished)
      (failed : console.perform device (Editing.call (.readKey true)) = (.error failure, last)) :
      Stops device prompt start incidents (.error failure) last
  /-- The line could not be fitted to the terminal, and the key was not handed on. -/
  | notFitted {incidents : List Incident} {key : Key} {console read last : Console σ}
      {failure : TerminalError}
      (unfolds : Unfolds device prompt start incidents console)
      (goesOn : ¬ console.editor.line.finished)
      (heard : console.perform device (Editing.call (.readKey true)) = (.ok (some key), read))
      (failed : read.perform device Editing.refreshGeometry = (.error failure, last)) :
      Stops device prompt start (incidents ++ Incident.ofFitting read.editor last.editor)
        (.error failure) last
  /-- What a key changed could not be painted. -/
  | notPainted {incidents : List Incident} {key : Key} {console read fitted last : Console σ}
      {failure : TerminalError}
      (unfolds : Unfolds device prompt start incidents console)
      (goesOn : ¬ console.editor.line.finished)
      (heard : console.perform device (Editing.call (.readKey true)) = (.ok (some key), read))
      (fits : read.perform device Editing.refreshGeometry = (.ok (), fitted))
      (failed : fitted.perform device (do Editing.handle key; Editing.call .flush) =
        (.error failure, last)) :
      Stops device prompt start
        (incidents ++ Incident.ofFitting read.editor fitted.editor ++
          [.handed key fitted.editor]) (.error failure) last

section Flow
variable {device : Terminal σ} {prompt : String} {start console : Console σ}
  {incidents : List Incident}

/-- The loop of a session, from a state up to which the session unfolded, brings it to a stop. -/
theorem stops_handleKeys (unfolds : Unfolds device prompt start incidents console)
    (budget : Nat) :
    ∃ all, Stops device prompt start all (console.perform device (Editing.handleKeys budget)).1
      (console.perform device (Editing.handleKeys budget)).2 := by
  induction budget generalizing incidents console with
  | zero =>
    rw [Editing.handleKeys, perform_get_bind]
    split <;> rename_i finished
    · rw [perform_map]
      exact ⟨incidents, .entered unfolds finished rfl⟩
    · exact ⟨incidents, .waiting unfolds finished⟩
  | succ budget ih =>
    rw [Editing.handleKeys, perform_get_bind]
    split <;> rename_i finished
    · rw [perform_map]
      exact ⟨incidents, .entered unfolds finished rfl⟩
    rcases heard : console.perform device (Editing.call (.readKey true)) with
      ⟨failure | (_ | key), read⟩
    · rw [perform_bind_of_error heard]
      exact ⟨incidents, .notHeard unfolds finished heard⟩
    · rw [perform_bind_of_ok heard]
      dsimp only
      rw [perform_map]
      exact ⟨incidents, .ended unfolds finished heard rfl⟩
    rw [perform_bind_of_ok heard]
    dsimp only
    -- The response fits the line to the terminal first and hands the key on then; both may fail.
    rcases fits : read.perform device Editing.refreshGeometry with ⟨failure | _, fitted⟩
    · have responds : read.perform device (Editing.respond key) = (.error failure, fitted) :=
        perform_bind_of_error fits
      rw [perform_bind_of_error responds]
      exact ⟨_, .notFitted unfolds finished heard fits⟩
    rcases handles : fitted.perform device (do Editing.handle key; Editing.call .flush) with
      ⟨failure | _, next⟩
    · have responds : read.perform device (Editing.respond key) = (.error failure, next) :=
        (perform_bind_of_ok fits).trans handles
      rw [perform_bind_of_error responds]
      exact ⟨_, .notPainted unfolds finished heard fits handles⟩
    · have responds : read.perform device (Editing.respond key) = (.ok (), next) :=
        (perform_bind_of_ok fits).trans handles
      rw [perform_bind_of_ok responds]
      exact ih (.heard unfolds finished heard fits handles)

/-- **Every session stops.** -/
theorem stops_session (device : Terminal σ) (start : Console σ) (keys : Nat) (prompt : String) :
    ∃ incidents, Stops device prompt start incidents
      (start.perform device (do Editing.begin prompt; Editing.handleKeys keys)).1
      (start.perform device (do Editing.begin prompt; Editing.handleKeys keys)).2 := by
  rcases begun : start.perform device (Editing.begin prompt) with ⟨failure | _, console⟩
  · rw [perform_bind_of_error begun]
    exact ⟨[], .notBegun begun⟩
  · rw [perform_bind_of_ok begun]
    exact stops_handleKeys (.begun begun) keys

/-- A session that unfolds up to a state comes through it. -/
theorem Unfolds.attends (unfolds : Unfolds device prompt start incidents console) :
    ∃ keys, Attends device prompt start keys console := by
  induction unfolds with
  | begun begun => exact ⟨[], .begun begun⟩
  | heard earlier goesOn heard fits handles ih =>
    obtain ⟨keys, attends⟩ := ih
    exact ⟨_, .heard attends heard ((perform_bind_of_ok fits).trans handles)⟩

/-- A session keeps the entries until its line is entered. -/
theorem Unfolds.keepsHistory (unfolds : Unfolds device prompt start incidents console) :
    start.editor.KeepsHistory console.editor := by
  obtain ⟨keys, attends⟩ := unfolds.attends
  exact attends.keepsHistory

end Flow

/-- **The input ended** in a session with these incidents, while a text of some length was in the
line. -/
def InputEnds (device : Terminal σ) (prompt : String) (start : Console σ)
    (incidents : List Incident) (length : Nat) : Prop :=
  ∃ console read, Unfolds device prompt start incidents console ∧
    ¬ console.editor.line.finished ∧
    console.perform device (Editing.call (.readKey true)) = (.ok none, read) ∧
    console.editor.line.length = length

end Console

end PromptLine
