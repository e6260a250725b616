import PromptLine.Proofs.Script.Session

/-!
# Replaying a script

A scripted terminal is used step by step: it answers a call, is given more inputs, forgets its
record, or has its writes fail from then on. In every run the inputs that were taken, followed by
those that are left, are the inputs of the beginning and those that were given since
(`PromptLine.Script.Replayed`). The keys and failures among the inputs that were taken are what the
reads delivered, and the last change of the width among them is the width.

So the next read finds the first key or failure that is left, at the width that the script gives it,
or the end of the input if none is left (`PromptLine.Script.Reads`). As long as no inputs are given,
the reads deliver what is left, one after the other, and then the end
(`PromptLine.Script.deliveries_of_unpushed`).
-/

namespace PromptLine

/-- What a read delivers: a key, the end of the input, or a failure. -/
abbrev Delivery := Except TerminalError (Option Key)

/-- Whether it is not the end of the input. -/
def Delivery.arrives : Delivery → Bool
  | .ok none => false
  | .ok (some _) => true
  | .error _ => true

namespace Input

/-- What a read delivers when it comes to an input. After a change of the width it goes on. -/
def delivery? : Input → Option Delivery
  | .key pressed => some (.ok (some pressed))
  | .resize _ => none
  | .fail kind => some (.error (.io kind))

/-- What is delivered for some inputs, if all of them are read. -/
def deliveries (inputs : List Input) : List Delivery := inputs.filterMap delivery?

@[simp] theorem deliveries_append (first second : List Input) :
    deliveries (first ++ second) = deliveries first ++ deliveries second :=
  List.filterMap_append

/-- What is delivered for some inputs by this many reads, if no more inputs are given: what the
inputs give, and once that is used up, the end. -/
def firstDeliveries (reads : Nat) (inputs : List Input) : List Delivery :=
  (deliveries inputs).take reads ++
    List.replicate (reads - (deliveries inputs).length) (.ok none)

@[simp] theorem firstDeliveries_zero (inputs : List Input) : firstDeliveries 0 inputs = [] := by
  unfold firstDeliveries
  rw [Nat.zero_sub]
  rfl

/-- The width that an input changes to. -/
def width? : Input → Option UInt16
  | .key _ => none
  | .resize width => some width
  | .fail _ => none

/-- The width after some inputs: the last one that they change to, or that of the beginning. -/
def widthAfter (width : UInt16) (inputs : List Input) : UInt16 :=
  (inputs.filterMap width?).getLast?.getD width

/-- Inputs that come later count for more. -/
theorem widthAfter_append (width : UInt16) (first second : List Input) :
    widthAfter width (first ++ second) = widthAfter (widthAfter width first) second := by
  unfold widthAfter
  rw [List.filterMap_append, List.getLast?_append]
  cases (second.filterMap width?).getLast? with
  | none => rfl
  | some last => rfl

section Gives
variable {input : Input} {delivery : Delivery} (gives : input.delivery? = some delivery)
include gives

/-- What an input gives arrives. -/
theorem arrives_of_delivery? : Delivery.arrives delivery := by
  cases input with
  | key pressed =>
    cases gives
    rfl
  | resize changed => cases gives
  | fail kind =>
    cases gives
    rfl

/-- An input that gives something leaves the width as it is. -/
theorem widthAfter_singleton (width : UInt16) : widthAfter width [input] = width := by
  cases input with
  | key pressed => rfl
  | resize changed => cases gives
  | fail kind => rfl

end Gives

end Input

namespace Script

/-! ### One read -/

/-- **What a read does** on a terminal that had some width and has taken some inputs since. It takes
changes of the width until an input comes that it can deliver, and leaves what comes after that one.
If there is none it takes all inputs, and delivers the end. -/
inductive Reads (width : UInt16) (taken : List Input) :
    List Input → Delivery → List Input → UInt16 → Prop where
  | delivered {resizes rest : List Input} {input : Input} {delivery : Delivery}
      (before : Input.deliveries resizes = []) (gives : input.delivery? = some delivery) :
      Reads width taken (resizes ++ input :: rest) delivery rest
        (Input.widthAfter width (taken ++ resizes))
  | ended {inputs : List Input} (nothing : Input.deliveries inputs = []) :
      Reads width taken inputs (.ok none) [] (Input.widthAfter width (taken ++ inputs))

namespace Reads
variable {width next changed : UInt16} {taken inputs rest : List Input} {delivery : Delivery}

/-- A change of the width in front of what a read takes is taken too. -/
theorem cons_resize (reads : Reads width (taken ++ [.resize changed]) inputs delivery rest next) :
    Reads width taken (.resize changed :: inputs) delivery rest next := by
  cases reads with
  | @delivered resizes rest input delivery before gives =>
    have reads : Reads width taken ((.resize changed :: resizes) ++ input :: rest) delivery rest
        (Input.widthAfter width (taken ++ .resize changed :: resizes)) := .delivered before gives
    rw [List.append_assoc]
    exact reads
  | ended nothing =>
    have reads : Reads width taken (.resize changed :: inputs) (.ok none) [] _ := .ended nothing
    rw [List.append_cons] at reads
    exact reads

/-- A read takes some of the inputs. They are what it delivers, unless that is the end, and the
width is the one that they leave. -/
theorem conserves (reads : Reads width taken inputs delivery rest next) :
    ∃ more, inputs = more ++ rest ∧ Input.deliveries more = [delivery].filter Delivery.arrives ∧
      next = Input.widthAfter width (taken ++ more) := by
  cases reads with
  | @delivered resizes rest input delivery before gives =>
    refine ⟨resizes ++ [input], List.append_cons _ _ _, ?delivers, ?width⟩
    case delivers =>
      rw [Input.deliveries_append, before, List.filter_cons_of_pos (Input.arrives_of_delivery? gives)]
      exact List.filterMap_cons_some gives
    case width =>
      rw [← List.append_assoc, Input.widthAfter_append _ (taken ++ resizes) [input]]
      exact (Input.widthAfter_singleton gives _).symm
  | ended nothing => exact ⟨inputs, (List.append_nil _).symm, nothing, rfl⟩

/-- What a read delivers comes first, and then what is delivered for the inputs that it leaves. -/
theorem cons_firstDeliveries (reads : Reads width taken inputs delivery rest next) (more : Nat) :
    delivery :: Input.firstDeliveries more rest = Input.firstDeliveries (more + 1) inputs := by
  unfold Input.firstDeliveries
  cases reads with
  | @delivered resizes rest input delivery before gives =>
    have due : Input.deliveries (resizes ++ input :: rest) = delivery :: Input.deliveries rest := by
      rw [Input.deliveries_append, before]
      exact List.filterMap_cons_some gives
    rw [due, List.take_succ_cons, List.length_cons, Nat.add_sub_add_right, List.cons_append]
  | ended nothing =>
    have empty : Input.deliveries [] = [] := rfl
    rw [nothing, empty, List.take_nil, List.take_nil]
    rfl

end Reads

/-- **The read of a terminal is the read described here.** -/
theorem reads_deliver (width : UInt16) (taken inputs : List Input) :
    let read := deliver (Input.widthAfter width taken) inputs
    Reads width taken inputs read.1 read.2.1 read.2.2 := by
  induction inputs generalizing taken with
  | nil =>
    have reads : Reads width taken [] (.ok none) [] _ := .ended rfl
    rw [List.append_nil] at reads
    exact reads
  | cons input rest ih =>
    cases input with
    | key pressed =>
      have reads : Reads width taken ([] ++ .key pressed :: rest) _ rest _ := .delivered rfl rfl
      rw [List.append_nil] at reads
      exact reads
    | resize changed =>
      have further := ih (taken ++ [.resize changed])
      rw [Input.widthAfter_append] at further
      exact further.cons_resize
    | fail kind =>
      have reads : Reads width taken ([] ++ .fail kind :: rest) _ rest _ := .delivered rfl rfl
      rw [List.append_nil] at reads
      exact reads

/-! ### One step -/

/-- One thing that is done to a scripted terminal. -/
inductive Step where
  | ask (call : Call)
  | push (inputs : List Input)
  | clearRecording
  /-- From now on every write fails, or none does. -/
  | failWrites (failure? : Option FailureKind)
deriving DecidableEq, Repr

namespace Step

/-- The terminal after a step. -/
def after (script : Script) : Step → Script
  | .ask call => (terminal.answer call script).terminal
  | .push inputs => script.push inputs
  | .clearRecording => script.clearRecording
  | .failWrites failure? => { script with writeFailure? := failure? }

/-- The inputs that a step gives to the terminal. -/
def pushed : Step → List Input
  | .push inputs => inputs
  | _ => []

/-- For a read, whether the key is to be intercepted. -/
def intercept? : Step → Option Bool
  | .ask (.readKey intercept) => some intercept
  | _ => none

/-- What a step delivers, if it is a read. -/
def delivery? (script : Script) : Step → Option Delivery
  | .ask (.readKey intercept) => some (terminal.answer (.readKey intercept) script).reply
  | _ => none

/-- Only a read has a flag. -/
theorem eq_readKey {step : Step} {intercept : Bool} (read : step.intercept? = some intercept) :
    step = .ask (.readKey intercept) := by
  cases step with
  | ask call =>
    cases call with
    | readKey other =>
      cases read
      rfl
    | _ => cases read
  | _ => cases read

/-- A step that is no read delivers nothing. -/
theorem delivery?_eq_none {step : Step} (silent : step.intercept? = none) (script : Script) :
    step.delivery? script = none := by
  cases step with
  | ask call =>
    cases call with
    | readKey intercept => cases silent
    | _ => rfl
  | _ => rfl

/-- Only a push gives inputs. -/
theorem pushed_eq_nil {step : Step} (unpushed : ∀ inputs, step ≠ .push inputs) :
    step.pushed = [] := by
  cases step with
  | push inputs => exact absurd rfl (unpushed inputs)
  | _ => rfl

end Step

/-- **What one step takes.** The inputs that the terminal has or is given are those that it takes
and those that it has afterwards. It delivers what the former give and has the width that they
leave, and it notes a read. -/
structure Takes (before : Script) (step : Step) (more : List Input) : Prop where
  inputs : before.inputs ++ step.pushed = more ++ (step.after before).inputs
  deliveries : (step.delivery? before).toList.filter Delivery.arrives = Input.deliveries more
  width : (step.after before).width = Input.widthAfter before.width more
  intercepts : (step.after before).intercepts.toList =
    before.intercepts.toList ++ step.intercept?.toList

/-- A step that is not a read takes nothing. -/
theorem takes_nil (script : Script) {step : Step} (silent : step.intercept? = none) :
    script.Takes step [] := by
  cases step with
  | push inputs => exact ⟨rfl, rfl, rfl, (List.append_nil _).symm⟩
  | clearRecording | failWrites failure? =>
    exact ⟨List.append_nil _, rfl, rfl, (List.append_nil _).symm⟩
  | ask call =>
    have shows : script.Shows (Step.after script (.ask call)) := by
      apply shows_answer
      intro intercept read
      cases read
      cases silent
    constructor
    case inputs => exact (List.append_nil _).trans shows.inputs_eq.symm
    case deliveries =>
      rw [Step.delivery?_eq_none silent]
      rfl
    case width => exact shows.width_eq
    case intercepts =>
      rw [shows, silent]
      exact (List.append_nil _).symm

/-- A read takes what it delivers and the changes of the width before that. -/
theorem exists_takes_readKey (script : Script) (intercept : Bool) :
    ∃ more, script.Takes (.ask (.readKey intercept)) more := by
  have reads := reads_deliver script.width [] script.inputs
  obtain ⟨more, inputs, delivers, width⟩ := reads.conserves
  exact ⟨more, (List.append_nil _).trans inputs, delivers.symm, width, Array.toList_push⟩

/-- **Every step takes some inputs**, none of them if it is no read. -/
theorem exists_takes (script : Script) (step : Step) : ∃ more, script.Takes step more := by
  cases read : step.intercept? with
  | none => exact ⟨[], script.takes_nil read⟩
  | some intercept =>
    rw [Step.eq_readKey read]
    exact script.exists_takes_readKey intercept

/-! ### A run -/

/-- The terminal after some steps. -/
def afterAll (steps : List Step) (script : Script) : Script := steps.foldl Step.after script

/-- Steps in a row are taken one after the other. -/
theorem afterAll_append (first second : List Step) (script : Script) :
    script.afterAll (first ++ second) = (script.afterAll first).afterAll second :=
  List.foldl_append

/-- What the reads among some steps deliver, in order. -/
def deliveries : List Step → Script → List Delivery
  | [], _ => []
  | step :: rest, script => (step.delivery? script).toList ++ deliveries rest (step.after script)

/-- **A replay so far.** The inputs that the terminal had or was given are those that it took and
those that it has now. It delivered what the former give and has the width that they leave, and it
noted every read. -/
structure Replayed (start : Script) (steps : List Step) (taken : List Input) : Prop where
  inputs : start.inputs ++ steps.flatMap Step.pushed = taken ++ (start.afterAll steps).inputs
  deliveries : (start.deliveries steps).filter Delivery.arrives = Input.deliveries taken
  width : (start.afterAll steps).width = Input.widthAfter start.width taken
  intercepts : (start.afterAll steps).intercepts.toList =
    start.intercepts.toList ++ steps.filterMap Step.intercept?

namespace Replayed
variable {start : Script} {steps : List Step} {step : Step} {taken more : List Input}

theorem nil (start : Script) : start.Replayed [] [] where
  inputs := List.append_nil _
  deliveries := rfl
  width := rfl
  intercepts := (List.append_nil _).symm

/-- One step and then some others. -/
theorem cons (takes : start.Takes step more) (replayed : (step.after start).Replayed steps taken) :
    start.Replayed (step :: steps) (more ++ taken) where
  inputs := by
    rw [List.flatMap_cons, ← List.append_assoc, takes.inputs, List.append_assoc, replayed.inputs,
      ← List.append_assoc]
    rfl
  deliveries := by
    change ((step.delivery? start).toList ++ (step.after start).deliveries steps).filter _ = _
    rw [List.filter_append, takes.deliveries, replayed.deliveries, Input.deliveries_append]
  width := by
    rw [Input.widthAfter_append, ← takes.width]
    exact replayed.width
  intercepts := by
    refine replayed.intercepts.trans ?_
    rw [takes.intercepts, List.append_assoc]
    congr 1
    cases read : step.intercept? with
    | none => exact (List.filterMap_cons_none read).symm
    | some intercept => exact (List.filterMap_cons_some read).symm

/-- The next read of a run does what one read does. -/
theorem reads (replayed : start.Replayed steps taken) (intercept : Bool) :
    let now := start.afterAll steps
    let answer := terminal.answer (.readKey intercept) now
    Reads start.width taken now.inputs answer.reply answer.terminal.inputs
      answer.terminal.width := by
  intro now answer
  have reads := reads_deliver start.width taken now.inputs
  rw [← replayed.width] at reads
  exact reads

end Replayed

/-- **Every run** is a replay of what the terminal had and was given. -/
theorem exists_replayed (start : Script) (steps : List Step) :
    ∃ taken, start.Replayed steps taken := by
  induction steps generalizing start with
  | nil => exact ⟨[], .nil start⟩
  | cons step rest ih =>
    obtain ⟨more, takes⟩ := start.exists_takes step
    obtain ⟨taken, replayed⟩ := ih (step.after start)
    exact ⟨more ++ taken, .cons takes replayed⟩

/-- **As long as no inputs are given**, the reads deliver what is left, one after the other, and
then the end of the input. -/
theorem deliveries_of_unpushed (script : Script) {steps : List Step}
    (unpushed : ∀ inputs, .push inputs ∉ steps) :
    script.deliveries steps =
      Input.firstDeliveries (steps.filterMap Step.intercept?).length script.inputs := by
  induction steps generalizing script with
  | nil => exact (Input.firstDeliveries_zero script.inputs).symm
  | cons step rest ih =>
    obtain ⟨this, others⟩ : (∀ inputs, step ≠ .push inputs) ∧ ∀ inputs, .push inputs ∉ rest := by
      constructor
      · exact fun inputs same => unpushed inputs (List.mem_cons.mpr (.inl same.symm))
      · exact fun inputs member => unpushed inputs (List.mem_cons_of_mem _ member)
    change (step.delivery? script).toList ++ (step.after script).deliveries rest = _
    rw [ih (step.after script) others]
    cases read : step.intercept? with
    | none =>
      have left := (script.takes_nil read).inputs
      rw [Step.pushed_eq_nil this, List.append_nil, List.nil_append] at left
      rw [Step.delivery?_eq_none read, List.filterMap_cons_none read, ← left]
      rfl
    | some intercept =>
      rw [List.filterMap_cons_some read, Step.eq_readKey read]
      exact (reads_deliver script.width [] script.inputs).cons_firstDeliveries _

/-- **A run replays the script.** What the reads deliver are the keys and failures of the script,
each once and in order, and then the end as long as no inputs are given. The width is always the
last one that the script came to, also when the next read is over, and each read is noted. Steps
that neither read nor give inputs leave what is left of the script as it is. -/
theorem replays (start : Script) (steps : List Step) :
    ∃ taken, start.Replayed steps taken ∧
      let now := start.afterAll steps
      (∀ intercept,
        let answer := terminal.answer (.readKey intercept) now
        Reads start.width taken now.inputs answer.reply answer.terminal.inputs
          answer.terminal.width) ∧
      (∀ more : List Step, (∀ inputs, .push inputs ∉ more) →
        now.deliveries more =
          Input.firstDeliveries (more.filterMap Step.intercept?).length now.inputs) ∧
      ∀ step : Step, step.intercept? = none → (∀ inputs, step ≠ .push inputs) →
        (step.after now).inputs = now.inputs ∧ (step.after now).width = now.width := by
  obtain ⟨taken, replayed⟩ := start.exists_replayed steps
  refine ⟨taken, replayed, replayed.reads, fun _ => deliveries_of_unpushed _, ?_⟩
  intro step silent unpushed
  have takes := (start.afterAll steps).takes_nil silent
  have left := takes.inputs
  rw [Step.pushed_eq_nil unpushed, List.append_nil] at left
  exact ⟨left.symm, takes.width⟩

/-- The width changes twice before the second read, and nothing is left for the third one. -/
theorem replays_resized :
    let start : Script :=
      { inputs := [.key (.ofChar 'x'), .resize 40, .resize 60], width := 80 }
    let now := start.afterAll
      [.ask (.readKey true), .ask (.write "x"), .push [.fail .brokenPipe, .resize 20]]
    now.width = 80 ∧
      (terminal.answer (.readKey true) now).terminal.width = 60 ∧
      now.deliveries [.ask (.readKey true), .clearRecording, .ask (.readKey false)] =
        [.error (.io .brokenPipe), .ok none] := by
  intro start now
  obtain ⟨_, -, -, unpushed, -⟩ := replays start
    [.ask (.readKey true), .ask (.write "x"), .push [.fail .brokenPipe, .resize 20]]
  exact ⟨rfl, rfl, unpushed _ (by simp)⟩

end Script

end PromptLine
