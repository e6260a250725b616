import PromptLine.Proofs.Session.Attending

/-!
# How a session concludes

A session on a sound terminal concludes in the last state that it comes through: there the line was
entered, a read found the end of the input, a read failed, or no more keys may be read
(`PromptLine.Console.Concludes`). What the session leaves is then known from that state.

How many keys a session may read does not matter once it has come to an outcome
(`PromptLine.Console.perform_readLine_of_le`), on any terminal. On a scripted terminal it has come
to one if it may read more keys than there are, whether or not reads and writes fail
(`PromptLine.Console.readLine_ne_none`).
-/

namespace PromptLine

namespace Console

/-- **How a session concludes**, from the last state that it comes through. -/
inductive Concludes (prompt : String) (start : Console Script) :
    Except TerminalError (Option Reading) → Console Script → Prop where
  /-- The line was entered. -/
  | entered {keys : List Key} {console : Console Script}
      (attends : Attends Script.terminal prompt start keys console)
      (finished : console.editor.line.finished) :
      Concludes prompt start (.ok (some (.line console.editor.line.content))) console.commits
  /-- The input ended. -/
  | ended {keys : List Key} {console : Console Script}
      (attends : Attends Script.terminal prompt start keys console)
      (goesOn : ¬ console.editor.line.finished)
      (delivered : (Script.deliver console.stage.terminal.width console.stage.terminal.inputs).1 =
        .ok none) :
      Concludes prompt start (.ok (some .endOfInput)) console.reads.abandons
  /-- A read failed. -/
  | failed {keys : List Key} {console : Console Script} {failure : TerminalError}
      (attends : Attends Script.terminal prompt start keys console)
      (goesOn : ¬ console.editor.line.finished)
      (delivered : (Script.deliver console.stage.terminal.width console.stage.terminal.inputs).1 =
        .error failure) :
      Concludes prompt start (.error failure) console.reads
  /-- No more keys may be read. -/
  | waiting {keys : List Key} {console : Console Script}
      (attends : Attends Script.terminal prompt start keys console)
      (goesOn : ¬ console.editor.line.finished) : Concludes prompt start (.ok none) console

/-- A session that reads a line comes to a state in which that line was entered. -/
theorem Concludes.of_line {prompt text : String} {start last : Console Script}
    (concludes : Concludes prompt start (.ok (some (.line text))) last) :
    ∃ keys console, Attends Script.terminal prompt start keys console ∧
      console.editor.line.finished ∧ console.editor.line.content = text ∧
      console.commits = last := by
  cases concludes with
  | entered attends finished => exact ⟨_, _, attends, finished, rfl, rfl⟩

/-- A session that ends with the input comes to a state in which the line was not entered. -/
theorem Concludes.of_endOfInput {prompt : String} {start last : Console Script}
    (concludes : Concludes prompt start (.ok (some .endOfInput)) last) :
    ∃ keys console, Attends Script.terminal prompt start keys console ∧
      ¬ console.editor.line.finished ∧
      (Script.deliver console.stage.terminal.width console.stage.terminal.inputs).1 = .ok none ∧
      console.reads.abandons = last := by
  cases concludes with
  | ended attends goesOn delivered => exact ⟨_, _, attends, goesOn, delivered, rfl⟩

section Sound
variable {prompt : String} {start : Console Script} (sound : start.stage.terminal.Sound)
include sound

/-- From every state of a session the loop brings the session to a conclusion. -/
theorem concludes_handleKeys {keys : List Key} {console : Console Script}
    (attends : Attends Script.terminal prompt start keys console) (budget : Nat) :
    Concludes prompt start (console.perform Script.terminal (Editing.handleKeys budget)).1
      (console.perform Script.terminal (Editing.handleKeys budget)).2 := by
  induction budget generalizing keys console with
  | zero =>
    have works := (attends.sound sound).works
    by_cases finished : console.editor.line.finished
    · rw [console.perform_handleKeys_of_finished 0 works finished]
      exact .entered attends finished
    · rw [Editing.handleKeys, perform_get_bind, if_neg finished]
      exact .waiting attends finished
  | succ budget ih =>
    have still := attends.sound sound
    by_cases finished : console.editor.line.finished
    · rw [console.perform_handleKeys_of_finished _ still.works finished]
      exact .entered attends finished
    have read := sound_reads still
    have heard := console.perform_readKey
    rw [console.perform_handleKeys_succ budget finished]
    cases delivered : (Script.deliver console.stage.terminal.width
        console.stage.terminal.inputs).1 with
    | error failure => exact .failed attends finished delivered
    | ok key? =>
      rw [delivered] at heard
      cases key? with
      | none =>
        dsimp only
        rw [perform_map, perform_abandon console.reads read.works]
        exact .ended attends finished delivered
      | some key =>
        dsimp only
        have responded := perform_respond _ read.works read.columns key
        rw [perform_bind_of_ok responded]
        exact ih (.heard attends heard responded)

/-- **A session concludes** in a state that it comes through, unless it fails. -/
theorem concludes_readLine {budget : Nat} {reading? : Option Reading} {last : Console Script}
    (done : start.perform Script.terminal (Editing.readLine budget prompt) =
      (.ok reading?, last)) :
    Concludes prompt start (.ok reading?) last := by
  have begun := perform_begin start sound.works sound.columns prompt
  have concludes := concludes_handleKeys sound (.begun begun) budget
  rw [perform_readLine_eq_ok, perform_bind_of_ok begun] at done
  rwa [done] at concludes

/-- The first key that enters the line is the last one of a session, and the session concludes in
the state for it. -/
theorem Attends.perform_readLine {keys : List Key} {key : Key} {console : Console Script}
    (attends : Attends Script.terminal prompt start (keys ++ [key]) console)
    (silent : ∀ earlier ∈ keys, start.editor.bindings.find? earlier ≠ some .enter)
    (bound : start.editor.bindings.find? key = some .enter) :
    console.editor.line.finished ∧
      start.perform Script.terminal (Editing.readLine (keys.length + 1) prompt) =
        (.ok (some (.line console.editor.line.content)), console.commits) := by
  have finished : console.editor.line.finished :=
    (attends.finished_iff sound).2.mpr ⟨key, by simp, bound⟩
  have loop := attends.perform_handleKeys (fun earlier state within short attended entered => ?_) 0
  · rw [List.length_append, List.length_singleton, Nat.add_zero,
      console.perform_handleKeys_of_finished 0 (attends.sound sound).works finished] at loop
    exact ⟨finished, perform_readLine_eq_ok.mpr loop⟩
  · obtain ⟨other, member, enters⟩ := (attended.finished_iff sound).2.mp entered
    have before : earlier <+: keys := (List.prefix_concat_iff.mp within).resolve_left short
    exact silent other (before.mem member) enters

end Sound

section Budget
variable {σ : Type} {device : Terminal σ} {console last : Console σ} {reading : Reading}
  {few many : Nat}

/-- Keys that are left over do not matter. -/
theorem perform_handleKeys_of_le (le : few ≤ many)
    (done : console.perform device (Editing.handleKeys few) = (.ok (some reading), last)) :
    console.perform device (Editing.handleKeys many) = (.ok (some reading), last) := by
  induction few generalizing console many with
  | zero =>
    by_cases finished : console.editor.line.finished
    · rw [Editing.handleKeys, perform_get_bind, if_pos finished] at done
      cases many with
      | zero => rwa [Editing.handleKeys, perform_get_bind, if_pos finished]
      | succ many => rwa [Editing.handleKeys, perform_get_bind, if_pos finished]
    · rw [Editing.handleKeys, perform_get_bind, if_neg finished] at done
      cases done
  | succ few ih =>
    obtain ⟨more, rfl⟩ := Nat.exists_eq_add_one_of_ne_zero (Nat.ne_zero_of_lt le)
    rw [Editing.handleKeys, perform_get_bind] at done ⊢
    by_cases finished : console.editor.line.finished
    · rwa [if_pos finished] at done ⊢
    rw [if_neg finished] at done ⊢
    obtain ⟨key?, read, heard, further⟩ := perform_bind_eq_ok.mp done
    rw [perform_bind_of_ok heard]
    cases key? with
    | none => exact further
    | some key =>
      obtain ⟨_, next, responded, later⟩ := perform_bind_eq_ok.mp further
      exact (perform_bind_of_ok responded).trans (ih (Nat.le_of_succ_le_succ le) later)

/-- **A session that has come to an outcome** comes to it with every larger number of keys that it
may read. -/
theorem perform_readLine_of_le {prompt : String} (le : few ≤ many)
    (done : console.perform device (Editing.readLine few prompt) = (.ok (some reading), last)) :
    console.perform device (Editing.readLine many prompt) = (.ok (some reading), last) := by
  rw [perform_readLine_eq_ok] at done ⊢
  obtain ⟨_, begun, begins, further⟩ := perform_bind_eq_ok.mp done
  rw [perform_bind_of_ok begins, perform_handleKeys_of_le le further]

end Budget

end Console

/-- An end of a session is an outcome. -/
theorem Editing.map_some_ne (result : Except TerminalError Reading) :
    some <$> result ≠ .ok none := by
  intro same
  cases result with
  | error failure => cases same
  | ok reading => cases same

/-- A session without an outcome has read as many keys as it may. -/
theorem Editing.ensures_handleKeys_keys (keys : Nat) (editor : Editor) :
    (handleKeys keys).Ensures editor fun course result _ =>
      result = .ok none → keys ≤ ((Moment.exchanges course).filterMap Exchange.key?).length := by
  induction keys generalizing editor with
  | zero => exact (ensures_handleKeys 0 editor).mono fun _ _ _ _ _ => Nat.zero_le _
  | succ keys ih =>
    unfold handleKeys
    rw [ensures_get_bind]
    split
    · rw [ensures_map]
      exact (ensures_commit editor).mono fun _ result _ _ none => absurd none (map_some_ne result)
    rw [ensures_bind, ensures_call]
    rintro (failure | _ | key)
    · intro none
      cases none
    · dsimp only
      rw [ensures_map]
      exact (ensures_abandon editor).mono fun _ result _ _ none => absurd none (map_some_ne result)
    dsimp only
    rw [ensures_bind]
    refine (ensures_respond_keepsHistory key editor).mono ?_
    rintro course (failure | _) after -
    · intro none
      cases none
    refine (ih after).mono ?_
    intro more result last count none
    have heard : Exchange.key? ⟨.readKey true, .ok (some key)⟩ = some key := rfl
    rw [List.singleton_append, Moment.exchanges_answered, Moment.exchanges_append,
      List.filterMap_cons_some heard, List.filterMap_append, List.length_cons, List.length_append]
    exact Nat.succ_le_succ (Nat.le_add_left_of_le (count none))

/-- **A session comes to an outcome** on a script that has fewer keys than it may read. -/
theorem Console.readLine_ne_none {keys : Nat} (prompt : String) (console : Console Script)
    (enough : (Input.keys console.stage.terminal.inputs).length < keys) :
    (console.perform Script.terminal (Editing.readLine keys prompt)).1 ≠ .ok none := by
  have reads : (Editing.readLine keys prompt).Ensures console.editor fun course result _ =>
      result = .ok none → keys ≤ ((Moment.exchanges course).filterMap Exchange.key?).length := by
    unfold Editing.readLine
    rw [Editing.ensures_tryCatch, Editing.ensures_bind]
    refine (Editing.ensures_begin prompt console.editor).mono ?_
    rintro course (failure | _) started -
    · intro none
      cases none
    refine (Editing.ensures_handleKeys_keys keys started).mono ?_
    rintro more (failure | reading) after count none
    · cases none
    rw [Moment.exchanges_append, List.filterMap_append, List.length_append]
    exact Nat.le_add_left_of_le (count none)
  intro none
  have read := console.perform_of_ensures Script.terminal reads none
  have delivered := Script.keys_of_answers (Dialogue.answers_course Script.terminal
    (Editing.dialogue (Editing.readLine keys prompt) console.editor) console.stage)
  rw [delivered, List.length_append] at enough
  exact absurd enough (Nat.not_lt.mpr (Nat.le_add_right_of_le read))

end PromptLine
