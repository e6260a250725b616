import PromptLine.Console

/-!
# The course of a dialogue

What happens in a dialogue is that calls are answered and events are noted. The course of a dialogue
on a terminal lists both, in order (`PromptLine.Dialogue.course`).

A dialogue is known before any terminal is chosen, so what it does on every terminal can be read off
the tree. `Dialogue.Ensures` says that some fact about course and result holds whatever the answers
are, and `Dialogue.Ensures.play` carries that fact over to each terminal. The rules for operations
of the editor follow their dialogues.
-/

namespace PromptLine

/-- A call and the answer to it. -/
structure Exchange where
  call : Call
  reply : Except TerminalError call.Reply

/-- One thing that happens in a dialogue. -/
inductive Moment where
  /-- A call is answered. -/
  | answered (exchange : Exchange)
  /-- An event is noted. -/
  | noted (event : Event)

namespace Moment

/-- The calls among the things that happen, with their answers. -/
def exchanges (course : List Moment) : List Exchange :=
  course.filterMap fun
    | .answered exchange => some exchange
    | .noted _ => none

@[simp] theorem exchanges_nil : exchanges [] = [] := rfl

@[simp] theorem exchanges_answered (exchange : Exchange) (course : List Moment) :
    exchanges (.answered exchange :: course) = exchange :: exchanges course := rfl

@[simp] theorem exchanges_noted (event : Event) (course : List Moment) :
    exchanges (.noted event :: course) = exchanges course := rfl

@[simp] theorem exchanges_append (first second : List Moment) :
    exchanges (first ++ second) = exchanges first ++ exchanges second :=
  List.filterMap_append

/-- The exchanges of a course are the calls that are answered in it. -/
theorem mem_exchanges {exchange : Exchange} {course : List Moment} :
    exchange ∈ exchanges course ↔ .answered exchange ∈ course := by
  induction course with
  | nil => simp
  | cons moment course ih => cases moment <;> simp [ih]

/-- The events that are noted among the things that happen. -/
def events (course : List Moment) : List Event :=
  course.filterMap fun
    | .answered _ => none
    | .noted event => some event

@[simp] theorem events_nil : events [] = [] := rfl

@[simp] theorem events_answered (exchange : Exchange) (course : List Moment) :
    events (.answered exchange :: course) = events course := rfl

@[simp] theorem events_noted (event : Event) (course : List Moment) :
    events (.noted event :: course) = event :: events course := rfl

@[simp] theorem events_append (first second : List Moment) :
    events (first ++ second) = events first ++ events second :=
  List.filterMap_append

/-- Nothing is noted, since a call is answered. -/
def IsAnswered : Moment → Prop
  | .answered _ => True
  | .noted _ => False

/-- A course of nothing but calls has no events. -/
theorem events_eq_nil {course : List Moment} (silent : ∀ moment ∈ course, moment.IsAnswered) :
    events course = [] := by
  induction course with
  | nil => rfl
  | cons moment course ih =>
    obtain ⟨answered, later⟩ := List.forall_mem_cons.mp silent
    cases moment with
    | answered exchange => exact ih later
    | noted event => exact answered.elim

end Moment

/-- A terminal that starts in one state and is in another after it has answered calls. -/
inductive Terminal.Answers {σ : Type} (device : Terminal σ) : σ → List Exchange → σ → Prop where
  | nil (terminal : σ) : Answers device terminal [] terminal
  | cons (call : Call) (terminal last : σ) (exchanges : List Exchange)
      (answers : Answers device (device.answer call terminal).terminal exchanges last) :
      Answers device terminal (⟨call, (device.answer call terminal).reply⟩ :: exchanges) last

/-- A terminal that notes no events of its own. -/
def Terminal.IsQuiet {σ : Type} (device : Terminal σ) : Prop :=
  ∀ call terminal, (device.answer call terminal).events = []

namespace Dialogue

variable {α β σ : Type}

/-- The course of a dialogue on a terminal. -/
def course (device : Terminal σ) : Dialogue α → σ → List Moment
  | .done _, _ => []
  | .ask call next, terminal =>
    let answer := device.answer call terminal
    .answered ⟨call, answer.reply⟩ :: (next answer.reply).course device answer.terminal
  | .note event next, terminal => .noted event :: next.course device terminal

/-- The calls of a course are those that are made when the dialogue is played, and the answers are
the terminal's. -/
theorem answers_course (device : Terminal σ) (dialogue : Dialogue α) (stage : Stage σ) :
    device.Answers stage.terminal (Moment.exchanges (dialogue.course device stage.terminal))
      (dialogue.play device stage).2.terminal := by
  induction dialogue generalizing stage with
  | done result => exact .nil _
  | ask call next ih =>
    exact .cons call _ _ _
      (ih _ { terminal := (device.answer call stage.terminal).terminal, events := _ })
  | note event next ih => exact ih { stage with events := stage.events.push event }

/-- The course of two dialogues in a row is that of the first one and then that of the second one,
on the terminal that the first one leaves. -/
theorem course_bind (device : Terminal σ) (dialogue : Dialogue α) (rest : α → Dialogue β)
    (stage : Stage σ) :
    (dialogue >>= rest).course device stage.terminal =
      dialogue.course device stage.terminal ++
        (rest (dialogue.play device stage).1).course device
          (dialogue.play device stage).2.terminal := by
  induction dialogue generalizing stage with
  | done result => rfl
  | ask call next ih =>
    let answer := device.answer call stage.terminal
    have further := ih answer.reply
      { terminal := answer.terminal, events := stage.events ++ answer.events }
    exact congrArg (Moment.answered ⟨call, answer.reply⟩ :: ·) further
  | note event next ih =>
    have further := ih { stage with events := stage.events.push event }
    exact congrArg (Moment.noted event :: ·) further

/-- On a quiet terminal the events of the course are all that is added to those noted before. -/
theorem events_play {device : Terminal σ} (quiet : device.IsQuiet) (dialogue : Dialogue α)
    (stage : Stage σ) : (dialogue.play device stage).2.events.toList =
      stage.events.toList ++ Moment.events (dialogue.course device stage.terminal) := by
  induction dialogue generalizing stage with
  | done result => exact (List.append_nil _).symm
  | ask call next ih =>
    let answer := device.answer call stage.terminal
    refine (ih answer.reply { terminal := answer.terminal, events := _ }).trans ?_
    rw [quiet call stage.terminal, Array.toList_appendList, List.append_nil]
    rfl
  | note event next ih =>
    refine (ih { stage with events := stage.events.push event }).trans ?_
    rw [Array.toList_push, List.append_assoc]
    rfl

/-- Whatever the answers are, course and result of a dialogue satisfy a condition. -/
def Ensures : Dialogue α → (List Moment → α → Prop) → Prop
  | .done result, post => post [] result
  | .ask call next, post =>
    ∀ reply, (next reply).Ensures fun course => post (.answered ⟨call, reply⟩ :: course)
  | .note event next, post => next.Ensures fun course => post (.noted event :: course)

@[simp] theorem ensures_done (result : α) (post : List Moment → α → Prop) :
    (Dialogue.done result).Ensures post ↔ post [] result := Iff.rfl

@[simp] theorem ensures_ask (call : Call) (next : Except TerminalError call.Reply → Dialogue α)
    (post : List Moment → α → Prop) :
    (Dialogue.ask call next).Ensures post ↔ ∀ reply, (next reply).Ensures fun course =>
      post (.answered ⟨call, reply⟩ :: course) := Iff.rfl

@[simp] theorem ensures_note (event : Event) (next : Dialogue α)
    (post : List Moment → α → Prop) :
    (Dialogue.note event next).Ensures post ↔
      next.Ensures fun course => post (.noted event :: course) := Iff.rfl

/-- A condition that follows from one that is ensured is ensured too. -/
theorem Ensures.mono {dialogue : Dialogue α} {strong weak : List Moment → α → Prop}
    (ensures : dialogue.Ensures strong)
    (follows : ∀ course result, strong course result → weak course result) :
    dialogue.Ensures weak := by
  induction dialogue generalizing strong weak with
  | done result => exact follows [] result ensures
  | ask call next ih =>
    intro reply
    exact ih reply (ensures reply) fun course => follows _
  | note event next ih => exact ih ensures fun course => follows _

/-- Two conditions that are ensured are ensured together. -/
theorem Ensures.and {dialogue : Dialogue α} {one two : List Moment → α → Prop}
    (first : dialogue.Ensures one) (second : dialogue.Ensures two) :
    dialogue.Ensures fun course result => one course result ∧ two course result := by
  induction dialogue generalizing one two with
  | done result => exact ⟨first, second⟩
  | ask call next ih => exact fun reply => ih reply (first reply) (second reply)
  | note event next ih => exact ih first second

/-- Two dialogues in a row ensure what the second ensures after everything that the first may come
to. -/
theorem ensures_bind (dialogue : Dialogue α) (rest : α → Dialogue β)
    (post : List Moment → β → Prop) :
    (dialogue >>= rest).Ensures post ↔
      dialogue.Ensures fun course reached => (rest reached).Ensures fun more result =>
        post (course ++ more) result := by
  induction dialogue generalizing post with
  | done result => rfl
  | ask call next ih => simp only [ask_bind, ensures_ask, ih, List.cons_append]
  | note event next ih => simp only [note_bind, ensures_note, ih, List.cons_append]

/-- What a dialogue ensures holds when it is played on a terminal. -/
theorem Ensures.play {dialogue : Dialogue α} {post : List Moment → α → Prop}
    (ensures : dialogue.Ensures post) (device : Terminal σ) (stage : Stage σ) :
    post (dialogue.course device stage.terminal) (dialogue.play device stage).1 := by
  induction dialogue generalizing post stage with
  | done result => exact ensures
  | ask call next ih =>
    exact ih _ (ensures _) { terminal := (device.answer call stage.terminal).terminal, events := _ }
  | note event next ih => exact ih ensures { stage with events := stage.events.push event }

end Dialogue

namespace Editing

variable {α β : Type}

/-- Whatever the terminal answers, an operation that starts from an editor satisfies a condition on
its course, its result and the editor that it leaves. -/
def Ensures (operation : Editing α) (editor : Editor)
    (post : List Moment → Except TerminalError α → Editor → Prop) : Prop :=
  (dialogue operation editor).Ensures fun course reached => post course reached.1 reached.2

section Rules
variable {editor : Editor} {operation : Editing α} {rest : α → Editing β}
  {post strong weak one two : List Moment → Except TerminalError α → Editor → Prop}

/-- What is ensured may be weakened. -/
theorem Ensures.mono (ensures : operation.Ensures editor strong)
    (follows : ∀ course result after, strong course result after → weak course result after) :
    operation.Ensures editor weak :=
  Dialogue.Ensures.mono ensures fun course reached => follows course reached.1 reached.2

/-- Two things that are ensured are ensured together. -/
theorem Ensures.and (first : operation.Ensures editor one)
    (second : operation.Ensures editor two) :
    operation.Ensures editor fun course result after =>
      one course result after ∧ two course result after :=
  Dialogue.Ensures.and first second

@[simp] theorem ensures_pure (value : α) :
    Ensures (pure value) editor post ↔ post [] (.ok value) editor := Iff.rfl

@[simp] theorem ensures_throw (failure : TerminalError) :
    Ensures (throw failure) editor post ↔ post [] (.error failure) editor := Iff.rfl

/-- Two operations in a row: the second goes on where the first one leaves off, unless the first one
failed. -/
theorem ensures_bind {post : List Moment → Except TerminalError β → Editor → Prop} :
    Ensures (operation >>= rest) editor post ↔
      operation.Ensures editor fun course result after =>
        match result with
        | .ok value => (rest value).Ensures after fun more => post (course ++ more)
        | .error failure => post course (.error failure) after := by
  unfold Ensures
  rw [dialogue_bind, Dialogue.ensures_bind]
  constructor <;> refine fun ensures => ensures.mono ?_
  all_goals
    rintro course ⟨value | failure, after⟩ holds
    · simpa using holds
    · exact holds

@[simp] theorem ensures_get {post : List Moment → Except TerminalError Editor → Editor → Prop} :
    Ensures get editor post ↔ post [] (.ok editor) editor := Iff.rfl

@[simp] theorem ensures_set (next : Editor)
    {post : List Moment → Except TerminalError Unit → Editor → Prop} :
    Ensures (set next) editor post ↔ post [] (.ok ()) next := Iff.rfl

@[simp] theorem ensures_modify (change : Editor → Editor)
    {post : List Moment → Except TerminalError Unit → Editor → Prop} :
    Ensures (modify change) editor post ↔ post [] (.ok ()) (change editor) := Iff.rfl

@[simp] theorem ensures_call (c : Call)
    {post : List Moment → Except TerminalError c.Reply → Editor → Prop} :
    Ensures (call c) editor post ↔ ∀ reply, post [.answered ⟨c, reply⟩] reply editor := Iff.rfl

@[simp] theorem ensures_note (event : Event)
    {post : List Moment → Except TerminalError Unit → Editor → Prop} :
    Ensures (note event) editor post ↔ post [.noted event] (.ok ()) editor := Iff.rfl

/-- An operation whose result is changed afterwards. -/
theorem ensures_map (change : α → β)
    {post : List Moment → Except TerminalError β → Editor → Prop} :
    Ensures (change <$> operation) editor post ↔
      operation.Ensures editor fun course result => post course (change <$> result) := by
  rw [map_eq_pure_bind, ensures_bind]
  constructor <;> refine fun ensures => ensures.mono ?_
  all_goals
    rintro course (failure | value) after holds
    · exact holds
    · simpa [Functor.map, Except.map] using holds

/-- A failure is handled from the editor that it leaves. -/
theorem ensures_tryCatch {handler : TerminalError → Editing α} :
    Ensures (tryCatch operation handler) editor post ↔
      operation.Ensures editor fun course result after =>
        match result with
        | .ok value => post course (.ok value) after
        | .error failure => (handler failure).Ensures after fun more => post (course ++ more) := by
  unfold Ensures
  rw [dialogue_tryCatch, Dialogue.ensures_bind]
  constructor <;> refine fun ensures => ensures.mono ?_
  all_goals
    rintro course ⟨value | failure, after⟩ holds
    · exact holds
    · simpa using holds

end Rules

end Editing

namespace Console

variable {σ α : Type}

/-- The course of an operation of the editor. -/
def course (device : Terminal σ) (operation : Editing α) (console : Console σ) : List Moment :=
  (Editing.dialogue operation console.editor).course device console.stage.terminal

/-- What an operation adds to the log on a quiet terminal. -/
theorem events_perform {device : Terminal σ} (quiet : device.IsQuiet) (console : Console σ)
    (operation : Editing α) : (console.perform device operation).2.stage.events.toList =
      console.stage.events.toList ++ Moment.events (console.course device operation) :=
  Dialogue.events_play quiet (Editing.dialogue operation console.editor) console.stage

/-- What an operation ensures holds when it is carried out on a console. -/
theorem perform_of_ensures {operation : Editing α}
    {post : List Moment → Except TerminalError α → Editor → Prop} (device : Terminal σ)
    (console : Console σ) (ensures : operation.Ensures console.editor post) :
    post (console.course device operation) (console.perform device operation).1
      (console.perform device operation).2.editor :=
  ensures.play device console.stage

end Console

end PromptLine
