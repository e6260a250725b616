import Mathlib.Data.List.Induction
import PromptLine.Proofs.Script.Session
import PromptLine.Proofs.Session.Outcome

/-!
# The states of a session

A session comes through one state after it began and through one after every key that it handled
(`PromptLine.Console.Attends`). These are the states that the loop of a session comes through
(`PromptLine.Console.Attends.perform_handleKeys`), and which state it is depends on the number of
keys alone.

A scripted terminal is sound if its writes succeed and it never loses its columns; it is steady if,
in addition, its width stays what it is. On a sound terminal every step of a session is known
beforehand, so a session comes through a state for all the keys of its script up to the first read
that fails, and what the beginning and every key keep holds in all of these states
(`PromptLine.Console.Attends.invariant`).
-/

namespace PromptLine

namespace Console

variable {σ : Type}

/-- **A session comes through a state** after it handled some keys. -/
inductive Attends (device : Terminal σ) (prompt : String) (start : Console σ) :
    List Key → Console σ → Prop where
  /-- The session began. -/
  | begun {console : Console σ}
      (begun : start.perform device (Editing.begin prompt) = (.ok (), console)) :
      Attends device prompt start [] console
  /-- One more key was read and responded to. -/
  | heard {keys : List Key} {key : Key} {console read next : Console σ}
      (earlier : Attends device prompt start keys console)
      (heard : console.perform device (Editing.call (.readKey true)) = (.ok (some key), read))
      (responded : read.perform device (Editing.respond key) = (.ok (), next)) :
      Attends device prompt start (keys ++ [key]) next

namespace Attends

variable {device : Terminal σ} {prompt : String} {start console other : Console σ}
  {keys : List Key}

/-- Before its first key, a session comes through the state in which it began. -/
theorem perform_begin_of_nil (attends : Attends device prompt start [] console) :
    start.perform device (Editing.begin prompt) = (.ok (), console) := by
  generalize none : ([] : List Key) = keys at attends
  cases attends with
  | begun begun => exact begun
  | heard => simp at none

/-- Before the last key, the session came through a state too. -/
theorem of_concat {key : Key} (attends : Attends device prompt start (keys ++ [key]) other) :
    ∃ console read, Attends device prompt start keys console ∧
      console.perform device (Editing.call (.readKey true)) = (.ok (some key), read) ∧
      read.perform device (Editing.respond key) = (.ok (), other) := by
  generalize all : keys ++ [key] = heard at attends
  cases attends with
  | begun begun => simp at all
  | heard earlier heard responded =>
    obtain ⟨rfl, last⟩ := List.append_inj' all rfl
    cases last
    exact ⟨_, _, earlier, heard, responded⟩

/-- A session comes through one state only after so many keys. -/
theorem unique (attends : Attends device prompt start keys console)
    (again : Attends device prompt start keys other) : console = other := by
  induction attends generalizing other with
  | begun begun => exact congrArg Prod.snd (begun.symm.trans again.perform_begin_of_nil)
  | heard earlier heard responded ih =>
    obtain ⟨before, read, attended, heard', responded'⟩ := again.of_concat
    cases ih attended
    have same := congrArg Prod.snd (heard.symm.trans heard')
    cases same
    exact congrArg Prod.snd (responded.symm.trans responded')

/-- Before each of its keys, the session came through a state in which that key was read. -/
theorem of_append_cons {key : Key} {later : List Key}
    (attends : Attends device prompt start (keys ++ key :: later) other) :
    ∃ console read, Attends device prompt start keys console ∧
      console.perform device (Editing.call (.readKey true)) = (.ok (some key), read) := by
  induction later using List.reverseRecOn generalizing other with
  | nil =>
    obtain ⟨console, read, earlier, heard, -⟩ := attends.of_concat
    exact ⟨console, read, earlier, heard⟩
  | append_singleton later last ih =>
    rw [← List.cons_append, ← List.append_assoc] at attends
    obtain ⟨console, -, earlier, -, -⟩ := attends.of_concat
    exact ih earlier

/-- **A session does not go on from a state in which no key is read.** -/
theorem prefix_of_silent (attends : Attends device prompt start keys console)
    (silent : ∀ key, (console.perform device (Editing.call (.readKey true))).1 ≠ .ok (some key))
    {others : List Key} (again : Attends device prompt start others other) : others <+: keys := by
  induction again with
  | begun begun => exact List.nil_prefix
  | @heard others key before read next earlier heard responded ih =>
    obtain ⟨later, rfl⟩ := ih
    cases later with
    | nil =>
      rw [List.append_nil] at attends
      cases attends.unique earlier
      exact absurd (congrArg Prod.fst heard) (silent key)
    | cons first later =>
      obtain ⟨reached, afterwards, attended, listened⟩ := attends.of_append_cons
      cases earlier.unique attended
      cases congrArg Prod.fst (heard.symm.trans listened)
      exact ⟨later, by rw [List.append_assoc, List.singleton_append]⟩

/-- A session begins with the empty line after the prompt. -/
theorem repaints_of_begin (begun : start.perform device (Editing.begin prompt) = (.ok (), console)) :
    Editor.Repaints { start.editor with line := Line.start prompt } console.editor := by
  have repaints := start.perform_of_ensures device (Editing.ensures_begin prompt start.editor)
  rwa [begun] at repaints

/-- After a key that was read and responded to, the editor is the one that the key leaves. -/
theorem repaints_of_respond {key : Key} {read : Console σ}
    (heard : console.perform device (Editing.call (.readKey true)) = (.ok (some key), read))
    (responded : read.perform device (Editing.respond key) = (.ok (), other)) :
    (console.editor.handled key).1.Repaints other.editor := by
  have same : console.editor = read.editor := congrArg (fun reached => reached.2.editor) heard
  have repaints := read.perform_of_ensures device (Editing.ensures_respond key read.editor)
  rw [responded] at repaints
  exact same ▸ repaints

/-- **What an editor keeps in a session.** On every terminal, what holds of the empty line that a
session begins with, whatever its place on the screen, and is kept by the keys holds in all states
of the session. -/
theorem editor (Kept : Editor → Prop) (attends : Attends device prompt start keys console)
    (begun : Kept { start.editor with line := Line.start prompt })
    (painted : ∀ before after : Editor, before.Repaints after → Kept before → Kept after)
    (handled : ∀ key ∈ keys, ∀ editor : Editor, Kept editor → Kept (editor.handled key).1) :
    Kept console.editor := by
  induction attends with
  | begun begins => exact painted _ _ (repaints_of_begin begins) begun
  | heard earlier heard responded ih =>
    obtain ⟨before, last⟩ := List.forall_mem_append.mp handled
    have kept := last _ (List.mem_singleton_self _) _ (ih before)
    exact painted _ _ (repaints_of_respond heard responded) kept

/-- A session changes neither the entries of the history nor the settings before it comes to an
outcome. -/
theorem keepsHistory (attends : Attends device prompt start keys console) :
    start.editor.KeepsHistory console.editor :=
  attends.editor start.editor.KeepsHistory ⟨.refl _, rfl⟩
    (fun _ _ repaints kept => trans_of Editor.KeepsHistory kept repaints.keepsHistory)
    fun key _ editor kept => trans_of Editor.KeepsHistory kept (editor.keepsHistory_handled key)

/-- **The loop of a session** comes through the states of the session: as long as the line was not
entered, the session goes on from each of them. -/
theorem perform_handleKeys (attends : Attends device prompt start keys console)
    (goesOn : ∀ earlier state, earlier <+: keys → earlier ≠ keys →
      Attends device prompt start earlier state → ¬ state.editor.line.finished) (budget : Nat) :
    start.perform device (do Editing.begin prompt; Editing.handleKeys (keys.length + budget)) =
      console.perform device (Editing.handleKeys budget) := by
  induction attends generalizing budget with
  | begun begun =>
    rw [perform_bind_of_ok begun, List.length_nil, Nat.zero_add]
  | @heard keys key console read next earlier heard responded ih =>
    have unfinished : ¬ console.editor.line.finished :=
      goesOn keys console (List.prefix_append keys [key]) (by simp) earlier
    have earlierGoesOn : ∀ shorter state, shorter <+: keys → shorter ≠ keys →
        Attends device prompt start shorter state → ¬ state.editor.line.finished := by
      intro shorter state within short attended
      have longer : shorter ≠ keys ++ [key] := by
        intro same
        have bound := within.length_le
        rw [same, List.length_append, List.length_singleton] at bound
        omega
      exact goesOn shorter state (within.trans (List.prefix_append keys [key])) longer attended
    have before := ih earlierGoesOn (budget + 1)
    rw [List.length_append, List.length_singleton, Nat.add_assoc, Nat.add_comm 1, before]
    rw [Editing.handleKeys, perform_get_bind, if_neg unfinished, perform_bind_of_ok heard]
    exact perform_bind_of_ok responded

end Attends

/-- A session in which nothing fails is what it does until it comes to its result. -/
theorem perform_readLine_eq_ok {device : Terminal σ} {prompt : String} {start last : Console σ}
    {budget : Nat} {reading? : Option Reading} :
    start.perform device (Editing.readLine budget prompt) = (.ok reading?, last) ↔
      start.perform device (do Editing.begin prompt; Editing.handleKeys budget) =
        (.ok reading?, last) := by
  unfold Editing.readLine
  rw [perform_tryCatch]
  generalize start.perform device (do Editing.begin prompt; Editing.handleKeys budget) = outcome
  obtain ⟨failure | reading, reached⟩ := outcome
  · constructor
    · intro done
      cases done
    · intro done
      cases done
  · exact Iff.rfl

end Console

namespace Script

/-- **A sound terminal**: its writes succeed, and it has columns, whatever its width becomes. -/
structure Sound (script : Script) : Prop where
  works : script.writeFailure? = none
  columns : script.width ≠ 0
  resizes : ∀ width, .resize width ∈ script.inputs → width ≠ 0

/-- **A steady terminal**: its writes succeed, and it has columns, always as many. -/
structure Steady (script : Script) : Prop where
  works : script.writeFailure? = none
  columns : script.width ≠ 0
  constant : ∀ width, .resize width ∈ script.inputs → width = script.width

/-- A tame terminal is sound. -/
theorem Tame.sound {script : Script} (tame : script.Tame) : script.Sound where
  works := tame.works
  columns := tame.columns
  resizes _ member := tame.inputs _ member

/-- A steady terminal is sound. -/
theorem Steady.sound {script : Script} (steady : script.Steady) : script.Sound where
  works := steady.works
  columns := steady.columns
  resizes width member := steady.constant width member ▸ steady.columns

/-- What is shown leaves a sound terminal sound. -/
theorem Shows.sound {before after : Script} (shows : before.Shows after) (sound : before.Sound) :
    after.Sound where
  works := shows.writeFailure?_eq.trans sound.works
  columns := shows.width_eq ▸ sound.columns
  resizes := shows.inputs_eq ▸ sound.resizes

/-- What is shown leaves a steady terminal steady. -/
theorem Shows.steady {before after : Script} (shows : before.Shows after) (steady : before.Steady) :
    after.Steady where
  works := shows.writeFailure?_eq.trans steady.works
  columns := shows.width_eq ▸ steady.columns
  constant := by
    rw [shows.inputs_eq, shows.width_eq]
    exact steady.constant

/-- A read leaves the end of the script. -/
theorem deliver_suffix (width : UInt16) (inputs : List Input) :
    (deliver width inputs).2.1 <:+ inputs := by
  induction inputs generalizing width with
  | nil => exact List.suffix_rfl
  | cons input rest ih =>
    cases input with
    | key pressed => exact List.suffix_cons _ _
    | fail kind => exact List.suffix_cons _ _
    | resize changed => exact (ih changed).trans (List.suffix_cons _ _)

/-- After a read the width is the old one or one that the script changed it to. -/
theorem deliver_width (width : UInt16) (inputs : List Input) :
    (deliver width inputs).2.2 = width ∨ .resize (deliver width inputs).2.2 ∈ inputs := by
  induction inputs generalizing width with
  | nil => exact Or.inl rfl
  | cons input rest ih =>
    cases input with
    | key pressed => exact Or.inl rfl
    | fail kind => exact Or.inl rfl
    | resize changed =>
      rcases ih changed with same | member
      · exact Or.inr (List.mem_cons.mpr (Or.inl (congrArg Input.resize same)))
      · exact Or.inr (List.mem_cons_of_mem _ member)

/-- The next key of a script comes after changes of the width. -/
theorem deliver_append_key {pending : List Input}
    (resizes : ∀ input ∈ pending, ∃ other, input = .resize other) (width : UInt16) (key : Key)
    (rest : List Input) :
    (deliver width (pending ++ .key key :: rest)).1 = .ok (some key) ∧
      (deliver width (pending ++ .key key :: rest)).2.1 = rest := by
  induction pending generalizing width with
  | nil => exact ⟨rfl, rfl⟩
  | cons input pending ih =>
    obtain ⟨⟨other, rfl⟩, others⟩ := List.forall_mem_cons.mp resizes
    exact ih others other

end Script

namespace Console

section Reads
variable {console : Console Script}

/-- A read brings nothing new into the script. -/
theorem mem_of_mem_reads {input : Input} (member : input ∈ console.reads.stage.terminal.inputs) :
    input ∈ console.stage.terminal.inputs :=
  (Script.deliver_suffix _ _).mem member

/-- A read leaves a sound terminal sound. -/
theorem sound_reads (sound : console.stage.terminal.Sound) :
    console.reads.stage.terminal.Sound where
  works := sound.works
  columns := by
    rcases Script.deliver_width console.stage.terminal.width console.stage.terminal.inputs with
      same | member
    · exact ne_of_eq_of_ne same sound.columns
    · exact sound.resizes _ member
  resizes width member := sound.resizes width (mem_of_mem_reads member)

/-- A read leaves a tame terminal tame. -/
theorem tame_reads (tame : console.stage.terminal.Tame) : console.reads.stage.terminal.Tame where
  works := tame.works
  columns := (sound_reads tame.sound).columns
  inputs input member := tame.inputs input (mem_of_mem_reads member)

variable (steady : console.stage.terminal.Steady)
include steady

/-- A read leaves the width of a steady terminal as it is. -/
theorem width_reads : console.reads.stage.terminal.width = console.stage.terminal.width := by
  rcases Script.deliver_width console.stage.terminal.width console.stage.terminal.inputs with
    same | member
  · exact same
  · exact steady.constant _ member

/-- A read leaves a steady terminal steady. -/
theorem steady_reads : console.reads.stage.terminal.Steady where
  works := steady.works
  columns := width_reads steady ▸ steady.columns
  constant width member :=
    (steady.constant width (mem_of_mem_reads member)).trans (width_reads steady).symm

end Reads

/-- The console after a session began and responded to some keys, when nothing else is delivered. -/
def pressed (prompt : String) (keys : List Key) (start : Console Script) : Console Script :=
  keys.foldl (fun console key => console.reads.responds key) (start.begins prompt)

namespace Attends
variable {prompt : String} {start console other : Console Script} {keys : List Key}

/-- A session comes through no state on a terminal without columns. -/
theorem columns (attends : Attends Script.terminal prompt start keys console) :
    start.stage.terminal.width ≠ 0 := by
  induction attends with
  | begun begins =>
    intro zero
    cases congrArg Prod.fst ((start.perform_begin_of_zero zero prompt).symm.trans begins)
  | heard earlier delivered responded ih => exact ih

/-- **What is kept in a session.** On a sound terminal, what holds after the beginning and is kept
by every key holds in all states of the session, and these are sound. -/
theorem invariant (Kept : List Key → Console Script → Prop)
    (attends : Attends Script.terminal prompt start keys console)
    (sound : start.stage.terminal.Sound) (begun : Kept [] (start.begins prompt))
    (heard : ∀ keys key console, Attends Script.terminal prompt start keys console →
      Attends Script.terminal prompt start (keys ++ [key]) (console.reads.responds key) →
      Kept keys console → Kept (keys ++ [key]) (console.reads.responds key)) :
    Kept keys console ∧ console.stage.terminal.Sound := by
  induction attends with
  | @begun console begins =>
    obtain rfl : start.begins prompt = console := congrArg Prod.snd
      ((perform_begin start sound.works sound.columns prompt).symm.trans begins)
    exact ⟨begun, (start.shows_begins prompt).sound sound⟩
  | @heard keys key console read next earlier delivered responded ih =>
    obtain ⟨kept, still⟩ := ih
    obtain rfl : console.reads = read :=
      congrArg Prod.snd (console.perform_readKey.symm.trans delivered)
    have soundRead := sound_reads still
    obtain rfl : console.reads.responds key = next := congrArg Prod.snd
      ((perform_respond _ soundRead.works soundRead.columns key).symm.trans responded)
    exact ⟨heard keys key console earlier (.heard earlier delivered responded) kept,
      (console.reads.shows_responds key).sound soundRead⟩

/-- A sound terminal is sound in every state of a session. -/
theorem sound (attends : Attends Script.terminal prompt start keys console)
    (sound : start.stage.terminal.Sound) : console.stage.terminal.Sound :=
  (attends.invariant (fun _ _ => True) sound trivial fun _ _ _ _ _ _ => trivial).2

/-- What showing something and reading keep of a sound terminal holds in all states of a session. -/
theorem terminal (Kept : Script → Prop)
    (attends : Attends Script.terminal prompt start keys console)
    (sound : start.stage.terminal.Sound) (begun : Kept start.stage.terminal)
    (shown : ∀ {before after : Script}, before.Shows after → Kept before → Kept after)
    (read : ∀ {console : Console Script}, Kept console.stage.terminal →
      Kept console.reads.stage.terminal) : Kept console.stage.terminal := by
  refine (attends.invariant (fun _ console => Kept console.stage.terminal) sound
    (shown (start.shows_begins prompt) begun) ?_).1
  intro keys key console _ _ kept
  exact shown (console.reads.shows_responds key) (read kept)

/-- A read of a session on a tame terminal finds a key or the end of the script. -/
theorem tame (attends : Attends Script.terminal prompt start keys console)
    (tame : start.stage.terminal.Tame) : console.stage.terminal.Tame :=
  attends.terminal Script.Tame tame.sound tame Script.Shows.tame tame_reads

/-- A steady terminal is steady in every state of a session. -/
theorem steady (attends : Attends Script.terminal prompt start keys console)
    (steady : start.stage.terminal.Steady) : console.stage.terminal.Steady :=
  attends.terminal Script.Steady steady.sound steady Script.Shows.steady steady_reads

/-- A session does not change the bindings, and the line is entered as soon as some key was bound to
that. -/
theorem finished_iff (attends : Attends Script.terminal prompt start keys console)
    (sound : start.stage.terminal.Sound) :
    console.editor.bindings = start.editor.bindings ∧
      (console.editor.line.finished ↔
        ∃ key ∈ keys, start.editor.bindings.find? key = some .enter) := by
  refine (attends.invariant (fun keys console =>
    console.editor.bindings = start.editor.bindings ∧
      (console.editor.line.finished ↔ ∃ key ∈ keys, start.editor.bindings.find? key = some .enter))
    sound ?_ ?_).1
  · have repaints := start.repaints_begins prompt
    refine ⟨repaints.bindings_eq, ?_⟩
    rw [repaints.line_eq]
    simp [Line.start]
  · intro keys key console _ _ kept
    obtain ⟨bindings, finished⟩ := kept
    have repaints := console.reads.repaints_responds key
    have same : (console.editor.handled key).1.bindings = start.editor.bindings :=
      (console.editor.bindings_handled key).trans bindings
    refine ⟨repaints.bindings_eq.trans same, ?_⟩
    rw [repaints.line_eq]
    change (console.editor.handled key).1.line.finished ↔ _
    by_cases bound : console.editor.bindings.find? key = some .enter
    · rw [Editor.handled_of_enter bound]
      simp only [Line.finish, true_iff]
      exact ⟨key, by simp, bindings ▸ bound⟩
    · rw [(console.editor.rewrites_handled bound).finished_eq, finished]
      rw [bindings] at bound
      simp [or_and_right, exists_or, bound]

/-- On a sound terminal a session comes through one more state for a key that is delivered. -/
theorem hears (attends : Attends Script.terminal prompt start keys console)
    (sound : start.stage.terminal.Sound) (key : Key)
    (delivered : (Script.deliver console.stage.terminal.width console.stage.terminal.inputs).1 =
      .ok (some key)) :
    Attends Script.terminal prompt start (keys ++ [key]) (console.reads.responds key) := by
  have heard := console.perform_readKey
  rw [delivered] at heard
  have read := sound_reads (attends.sound sound)
  exact .heard attends heard (perform_respond _ read.works read.columns key)

/-- Keys that come right after one another bring a session on a sound terminal to this state. -/
theorem pressed (prompt : String) (sound : start.stage.terminal.Sound) {keys : List Key}
    {rest : List Input} (script : start.stage.terminal.inputs = keys.map .key ++ rest) :
    Attends Script.terminal prompt start keys (start.pressed prompt keys) ∧
      (start.pressed prompt keys).stage.terminal.inputs = rest := by
  induction keys using List.reverseRecOn generalizing rest with
  | nil =>
    exact ⟨.begun (perform_begin start sound.works sound.columns prompt),
      (start.shows_begins prompt).inputs_eq.trans script⟩
  | append_singleton keys key ih =>
    have more : start.stage.terminal.inputs = keys.map .key ++ .key key :: rest := by simp [script]
    obtain ⟨attends, left⟩ := ih more
    have reached : start.pressed prompt (keys ++ [key]) =
        (start.pressed prompt keys).reads.responds key := by
      simp only [Console.pressed, List.foldl_append, List.foldl_cons, List.foldl_nil]
    generalize start.pressed prompt keys = console at attends left reached
    have delivered : Script.deliver console.stage.terminal.width console.stage.terminal.inputs =
        (.ok (some key), rest, console.stage.terminal.width) := by
      rw [left]
      rfl
    rw [reached]
    refine ⟨attends.hears sound key (congrArg Prod.fst delivered), ?_⟩
    refine (console.reads.shows_responds key).inputs_eq.trans ?_
    exact congrArg (fun read => read.2.1) delivered

/-- On a sound terminal a session comes through a state for all keys up to the first read that
fails. -/
theorem exists_of_sound (prompt : String) (sound : start.stage.terminal.Sound)
    (before rest : List Input) (script : start.stage.terminal.inputs = before ++ rest)
    (delivers : ∀ kind, .fail kind ∉ before) :
    ∃ console pending, Attends Script.terminal prompt start (Input.keys before) console ∧
      console.stage.terminal.inputs = pending ++ rest ∧
      ∀ input ∈ pending, ∃ width, input = .resize width := by
  induction before using List.reverseRecOn generalizing rest with
  | nil =>
    have shows := start.shows_begins prompt
    exact ⟨_, [], .begun (perform_begin start sound.works sound.columns prompt),
      shows.inputs_eq.trans script, List.forall_mem_nil _⟩
  | append_singleton before input ih =>
    have earlier : ∀ kind, .fail kind ∉ before := fun kind member =>
      delivers kind (List.mem_append_left _ member)
    obtain ⟨console, pending, attends, left, resizes⟩ :=
      ih (input :: rest) (by rw [script, List.append_assoc]; rfl) earlier
    cases input with
    | fail kind => exact absurd (List.mem_append_right _ List.mem_cons_self) (delivers kind)
    | resize width =>
      refine ⟨console, pending ++ [.resize width], ?_, ?_, ?_⟩
      · rw [Input.keys_append]
        exact (List.append_nil (Input.keys before)).symm ▸ attends
      · rw [left, List.append_assoc]
        rfl
      · exact List.forall_mem_append.mpr ⟨resizes, by simp⟩
    | key key =>
      have delivered := Script.deliver_append_key resizes console.stage.terminal.width key rest
      rw [← left] at delivered
      have shows := console.reads.shows_responds key
      refine ⟨console.reads.responds key, [], ?_, ?_, List.forall_mem_nil _⟩
      · rw [Input.keys_append]
        exact attends.hears sound key delivered.1
      · exact shows.inputs_eq.trans delivered.2

/-- On a steady terminal these states are steady. -/
theorem exists_of_steady (prompt : String) (steady : start.stage.terminal.Steady)
    (before rest : List Input) (script : start.stage.terminal.inputs = before ++ rest)
    (delivers : ∀ kind, .fail kind ∉ before) :
    ∃ console pending, Attends Script.terminal prompt start (Input.keys before) console ∧
      console.stage.terminal.Steady ∧ console.stage.terminal.inputs = pending ++ rest ∧
      ∀ input ∈ pending, ∃ width, input = .resize width := by
  obtain ⟨console, pending, attends, left, resizes⟩ :=
    exists_of_sound prompt steady.sound before rest script delivers
  exact ⟨console, pending, attends, attends.steady steady, left, resizes⟩

end Attends

end Console

end PromptLine
