import Mathlib.Data.List.Nodup
import Mathlib.Data.List.TakeWhile
import PromptLine.CommandLine.Reader
import PromptLine.Proofs.CommandLine.Documented
import PromptLine.Proofs.Text.Number

/-!
# The reader that comes with the library

It is as documented (`PromptLine.CommandLine.Reader.documented_standard`), whichever options are
declared. A value that stands alone is taken only when the next option comes, so what has been read
so far is what a state comes to when that value is taken (`PromptLine.CommandLine.State.Stands`).
Each option adds itself to that (`PromptLine.CommandLine.State.Stands.exists_reads`).
-/

namespace PromptLine.CommandLine

/-- Two steps in a row succeed if both do. -/
theorem bind_eq_ok {ε α β : Type} {first : Except ε α} {rest : α → Except ε β} {result : β} :
    (first >>= rest) = .ok result ↔ ∃ value, first = .ok value ∧ rest value = .ok result := by
  cases first with
  | error reason => exact ⟨nofun, nofun⟩
  | ok value =>
    constructor
    · intro done
      exact ⟨value, rfl, done⟩
    · intro ⟨other, same, done⟩
      cases same
      exact done

/-- The only element with a property is the one that is found. -/
theorem find?_eq_some_of_unique {α : Type} {list : List α} {property : α → Bool} {one : α}
    (member : one ∈ list) (holds : property one)
    (unique : ∀ other ∈ list, property other → other = one) : list.find? property = some one := by
  cases found : list.find? property with
  | none => exact absurd holds (by simpa using List.find?_eq_none.mp found one member)
  | some other =>
    rw [unique other (List.mem_of_find?_eq_some found) (List.find?_some found)]

/-- A table has an entry for each of its keys and for no other. -/
theorem isSome_lookup_iff {α β : Type} [DecidableEq α] {table : List (α × β)} {key : α} :
    (table.lookup key).isSome ↔ key ∈ table.map (·.1) := by
  rw [List.lookup_isSome_iff, List.mem_map]
  constructor
  · intro ⟨entry, member, same⟩
    exact ⟨entry, member, (beq_iff_eq.mp same).symm⟩
  · rintro ⟨entry, member, rfl⟩
    exact ⟨entry, member, beq_self_eq_true _⟩

/-- In a table with each key once, every entry is found by its key. -/
theorem lookup_eq_some_of_mem {α β : Type} [DecidableEq α] {table : List (α × β)} {key : α}
    {value : β} (once : (table.map (·.1)).Nodup) (member : (key, value) ∈ table) :
    table.lookup key = some value := by
  obtain ⟨before, after, rfl⟩ := List.append_of_mem member
  refine List.lookup_eq_some_iff.mpr ⟨before, after, rfl, ?_⟩
  intro entry earlier
  rw [bne_iff_ne]
  rintro rfl
  rw [List.map_append, List.nodup_append] at once
  exact once.2.2 entry.1 (List.mem_map_of_mem earlier) entry.1 (by simp) rfl

/-! ### The form of an argument -/

/-- A name ends before the first equals sign, and its value may hold others. -/
theorem splitValue_append {name : List Char} (unequal : '=' ∉ name) (value : List Char) :
    splitValue (name ++ '=' :: value) = (String.ofList name, some (String.ofList value)) := by
  have inside : ∀ c ∈ name, (c != '=') = true := by
    intro c member
    exact bne_iff_ne.mpr fun same => unequal (same ▸ member)
  unfold splitValue
  rw [List.takeWhile_append_of_pos inside, List.dropWhile_append_of_pos inside]
  simp

/-- A name without an equals sign has no value. -/
theorem splitValue_of_not_mem {name : List Char} (unequal : '=' ∉ name) :
    splitValue name = (String.ofList name, none) := by
  have inside : ∀ c ∈ name, (c != '=') = true := by
    intro c member
    exact bne_iff_ne.mpr fun same => unequal (same ▸ member)
  unfold splitValue
  rw [List.takeWhile_eq_self_iff.mpr inside, List.dropWhile_eq_nil_iff.mpr inside]

/-- What follows two dashes is split at its equals sign. -/
theorem form_dashes {text : List Char} (nonempty : text ≠ []) {argument : String}
    (chars : argument.toList = '-' :: '-' :: text) :
    form argument = .long (splitValue text).1 (splitValue text).2 := by
  obtain ⟨c, rest, rfl⟩ := List.exists_cons_of_ne_nil nonempty
  unfold form
  rw [chars]
  rfl

/-- What is written in full before an equals sign is the name of an option, and what follows is its
value, whatever that is made of. -/
theorem form_long_value {long : String} (unequal : '=' ∉ long.toList) (value : String) :
    form ("--" ++ long ++ "=" ++ value) = .long long (some value) := by
  have chars : ("--" ++ long ++ "=" ++ value).toList =
      '-' :: '-' :: (long.toList ++ '=' :: value.toList) := by simp
  rw [form_dashes (by simp) chars, splitValue_append unequal, String.ofList_toList,
    String.ofList_toList]

/-- What is written in full without an equals sign is the name of an option and nothing more. -/
theorem form_long {long : String} (nonempty : long ≠ "") (unequal : '=' ∉ long.toList) :
    form ("--" ++ long) = .long long none := by
  have chars : ("--" ++ long).toList = '-' :: '-' :: long.toList := by simp
  have named : long.toList ≠ [] := fun empty => nonempty (String.toList_inj.mp empty)
  rw [form_dashes named chars, splitValue_of_not_mem unequal, String.ofList_toList]

/-- A letter after a dash stands for an option, unless it is a second dash. -/
theorem form_short {letter : Char} (undashed : letter ≠ '-') :
    form (String.ofList ['-', letter]) = .short [letter] := by
  unfold form
  rw [String.toList_ofList]
  split <;> simp_all

/-- What does not start with a dash is no option. -/
theorem form_plain {argument : String} (undashed : argument.toList.head? ≠ some '-') :
    form argument = .plain := by
  unfold form
  split
  all_goals simp_all

/-! ### What has been read so far -/

namespace Kind.Fits
variable {kind : Kind}

/-- A value that fits passes the check. -/
theorem check {value? : Option String} (fits : kind.Fits value?) :
    kind.check (value?.getD "") = .ok () := by
  cases kind with
  | flag | text => rfl
  | size =>
    obtain ⟨size, small, rfl⟩ := fits
    have read : Text.size? (toString size) = some size := Text.size?_toString small
    exact if_pos (read ▸ rfl)
  | asks question => exact fits.elim

/-- An option with a fitting value takes one. -/
theorem takesValue {value : String} (fits : kind.Fits (some value)) : kind.takesValue := by
  cases kind with
  | flag => cases fits
  | size | text => rfl
  | asks question => exact fits.elim

/-- An option that may stand alone takes no value. -/
theorem takesNone (fits : kind.Fits none) : ¬ kind.takesValue := by
  cases kind with
  | flag | asks question => exact Bool.false_ne_true
  | size =>
    obtain ⟨size, -, same⟩ := fits
    cases same
  | text =>
    obtain ⟨text, -, same⟩ := fits
    cases same

end Kind.Fits

namespace WellDeclared
variable {ι : Type} {declared : List (Declared ι)} {option : Declared ι}
  (well : WellDeclared declared) (member : option ∈ declared)
include well member

/-- A long name has no equals sign, so it ends where the value starts. -/
theorem unequal : '=' ∉ option.long.toList := by
  intro equals
  obtain ⟨-, -, letters, -⟩ := well.spelling option member
  exact absurd (List.all_eq_true.mp letters '=' equals) (by decide)

/-- No option has a dash for its letter, so a letter is not taken for a long name. -/
theorem letter_ne {letter : Char} (known : option.letter? = some letter) : letter ≠ '-' := by
  rintro rfl
  obtain ⟨-, -, -, alphanumeric⟩ := well.spelling option member
  rw [known] at alphanumeric
  exact absurd alphanumeric (by decide)

/-- An option is found by its long name. -/
theorem find?_long : declared.find? (fun other => other.long == option.long) = some option :=
  find?_eq_some_of_unique member (beq_self_eq_true _) fun other there same =>
    well.longs other there option member (beq_iff_eq.mp same)

/-- An option is found by its letter. -/
theorem find?_letter {letter : Char} (known : option.letter? = some letter) :
    declared.find? (fun other => other.letter? == some letter) = some option := by
  refine find?_eq_some_of_unique member (beq_iff_eq.mpr known) fun other there same => ?_
  have lettered := beq_iff_eq.mp same
  exact well.letters other there option member (by simp [lettered]) (lettered.trans known.symm)

/-- An option is found by its name. -/
theorem find?_name [DecidableEq ι] :
    declared.find? (fun other => other.name == option.name) = some option :=
  find?_eq_some_of_unique member (beq_self_eq_true _) fun other there same =>
    well.names other there option member (beq_iff_eq.mp same)

end WellDeclared

namespace State
variable {ι : Type} [DecidableEq ι] {declared : List (Declared ι)} {state after closed : State ι}
  {given : List (ι × String)} {option : Declared ι} {value : String}

/-- **What has been read so far**, once a value that stands alone is taken: the options that were
given, the newest first, with their values. -/
def Stands (given : List (ι × String)) (state : State ι) : Prop :=
  state.close = .ok { given }

theorem stands_given (given : List (ι × String)) : Stands given { given } := rfl

/-- An option can be given if it was not given before and its value passes the check. -/
theorem give_eq_ok : state.give option value = .ok after ↔
    state.given.lookup option.name = none ∧ option.kind.check value = .ok () ∧
      after = { state with given := (option.name, value) :: state.given } := by
  unfold give
  cases state.given.lookup option.name with
  | some earlier => simp
  | none =>
    cases option.kind.check value with
    | error reason => simp [bind, Except.bind]
    | ok checked => simp [bind, Except.bind, eq_comm]

/-- Taking a value that stands alone does not end the options. -/
theorem optionsEnded_of_close (done : state.close = .ok closed) :
    closed.optionsEnded = state.optionsEnded := by
  unfold close at done
  split at done
  · cases done
    rfl
  · cases done
  · obtain ⟨-, -, rfl⟩ := give_eq_ok.mp done
    rfl

/-- The arguments are read one after the other, and all of them are accepted. -/
def Reads (declared : List (Declared ι)) (state : State ι) (arguments : List String)
    (after : State ι) : Prop :=
  arguments.foldlM (fun state text => state.argument declared text) state = .ok after

/-- Arguments are read if the first one is and then the others are. -/
theorem reads_cons {text : String} {arguments : List String} :
    state.Reads declared (text :: arguments) after ↔
      ∃ next, state.argument declared text = .ok next ∧ next.Reads declared arguments after := by
  unfold Reads
  rw [List.foldlM_cons]
  exact bind_eq_ok

/-- Arguments in a row are read one after the other. -/
theorem Reads.append {first second : List String} {next : State ι}
    (reads : state.Reads declared first next) (further : next.Reads declared second after) :
    state.Reads declared (first ++ second) after := by
  unfold Reads at *
  rw [List.foldlM_append, reads]
  exact further

namespace Stands
variable (stands : state.Stands given)
include stands

/-- Options may still follow. -/
theorem argument_eq (text : String) :
    state.argument declared text = match form text with
      | .endOfOptions => .ok { state with optionsEnded := true }
      | .long name value? => state.long declared name value?
      | .short letters => state.short declared letters
      | .plain => state.plain text := by
  have goesOn : ¬ state.optionsEnded := by
    simp [← optionsEnded_of_close stands]
  exact if_neg goesOn

/-- An option whose value stands alone waits for it. -/
theorem option_open (takesValue : option.kind.takesValue) :
    state.option option none = .ok { given, open? := some (option, none) } := by
  unfold State.option
  rw [stands]
  exact if_pos takesValue

/-- An option with its value at hand is given at once. -/
theorem option_value (takesValue : option.kind.takesValue)
    (fresh : given.lookup option.name = none) (checked : option.kind.check value = .ok ()) :
    state.option option (some value) = .ok { given := (option.name, value) :: given } := by
  unfold State.option
  rw [stands]
  exact (if_pos takesValue).trans (give_eq_ok.mpr ⟨fresh, checked, rfl⟩)

/-- And so is an option that takes none. -/
theorem option_flag (takesNone : ¬ option.kind.takesValue)
    (fresh : given.lookup option.name = none) (checked : option.kind.check "" = .ok ()) :
    state.option option none = .ok { given := (option.name, "") :: given } := by
  unfold State.option
  rw [stands]
  exact (if_neg takesNone).trans (give_eq_ok.mpr ⟨fresh, checked, rfl⟩)

/-- **An option that is given for the first time** is read as it is written, and adds itself to what
has been read so far. -/
theorem reads_spelt {value? : Option String} {arguments : List String}
    (well : WellDeclared declared) (member : option ∈ declared)
    (spells : Spells option value? arguments) (fits : option.kind.Fits value?)
    (fresh : given.lookup option.name = none) :
    ∃ after, state.Reads declared arguments after ∧
      after.Stands ((option.name, value?.getD "") :: given) := by
  cases spells with
  | equals value =>
    have gives := stands.option_value fits.takesValue fresh fits.check
    refine ⟨_, reads_cons.mpr ⟨_, ?_, rfl⟩, stands_given _⟩
    rw [stands.argument_eq, form_long_value (well.unequal member)]
    simp only [State.long, well.find?_long member, fits.takesValue]
    exact gives
  | @next letter value known undashed =>
    -- The option waits for its value, which is the next argument, and is closed by what follows.
    let waiting : State ι := { given, open? := some (option, none) }
    let answered : State ι := { given, open? := some (option, some value) }
    have first : state.argument declared (String.ofList ['-', letter]) = .ok waiting := by
      rw [stands.argument_eq, form_short (well.letter_ne member known)]
      simp only [State.short, well.find?_letter member known, fits.takesValue]
      exact stands.option_open fits.takesValue
    have second : waiting.argument declared value = .ok answered := by
      simp [State.argument, State.plain, form_plain undashed, waiting, answered]
    refine ⟨answered, reads_cons.mpr ⟨waiting, first, reads_cons.mpr ⟨answered, second, rfl⟩⟩, ?_⟩
    exact give_eq_ok.mpr ⟨fresh, fits.check, rfl⟩
  | full =>
    have gives := stands.option_flag fits.takesNone fresh fits.check
    obtain ⟨named, -⟩ := well.spelling option member
    refine ⟨_, reads_cons.mpr ⟨_, ?_, rfl⟩, stands_given _⟩
    rw [stands.argument_eq, form_long named (well.unequal member)]
    simp only [State.long, well.find?_long member, Option.isSome_none, Bool.and_false]
    exact gives
  | @brief letter known =>
    have gives := stands.option_flag fits.takesNone fresh fits.check
    refine ⟨_, reads_cons.mpr ⟨_, ?_, rfl⟩, stands_given _⟩
    rw [stands.argument_eq, form_short (well.letter_ne member known)]
    simp only [State.short, well.find?_letter member known, fits.takesNone, gives]
    rfl

end Stands

end State

/-! ### Whole command lines -/

/-- What an option that stands on a command line adds to the table of what is given. -/
def Occurrence.entry {ι : Type} (one : Occurrence ι) : ι × String :=
  (one.option.name, one.value?.getD "")

/-- The names that were given are the names of the options that occur, the last one first. -/
theorem Occurrence.map_entry {ι : Type} (given : List (Occurrence ι)) :
    (given.map entry).reverse.map (·.1) = (given.map (·.option.name)).reverse := by
  rw [List.map_reverse, List.map_map]
  rfl

section Lines
variable {ι : Type} [DecidableEq ι] {declared : List (Declared ι)}

/-- **Options that are given once each** are read one after the other. -/
theorem State.Stands.exists_reads {state : State ι} {before : List (ι × String)}
    {given : List (Occurrence ι)} (stands : state.Stands before) (well : WellDeclared declared)
    (known : ∀ one ∈ given, one.option ∈ declared)
    (spelt : ∀ one ∈ given, Spells one.option one.value? one.arguments)
    (fits : ∀ one ∈ given, one.option.kind.Fits one.value?)
    (once : (given.map (·.option.name)).Nodup)
    (fresh : ∀ one ∈ given, one.option.name ∉ before.map (·.1)) :
    ∃ after, state.Reads declared (given.flatMap (·.arguments)) after ∧
      after.Stands ((given.map Occurrence.entry).reverse ++ before) := by
  induction given generalizing state before with
  | nil => exact ⟨state, rfl, stands⟩
  | cons first rest ih =>
    obtain ⟨member, others⟩ := List.forall_mem_cons.mp known
    obtain ⟨spells, spelling⟩ := List.forall_mem_cons.mp spelt
    obtain ⟨fit, fitting⟩ := List.forall_mem_cons.mp fits
    obtain ⟨new, later⟩ := List.forall_mem_cons.mp fresh
    obtain ⟨unlike, onceMore⟩ := List.nodup_cons.mp once
    obtain ⟨next, reads, standsNext⟩ :=
      stands.reads_spelt well member spells fit (Option.not_isSome_iff_eq_none.mp fun found =>
        new (isSome_lookup_iff.mp found))
    have freshNext : ∀ one ∈ rest,
        one.option.name ∉ ((first.option.name, first.value?.getD "") :: before).map (·.1) := by
      intro one there
      apply List.not_mem_cons_of_ne_of_not_mem
      · intro same
        exact unlike (same ▸ List.mem_map_of_mem there)
      · exact later one there
    obtain ⟨after, further, standsAfter⟩ :=
      ih standsNext others spelling fitting onceMore freshNext
    refine ⟨after, reads.append further, ?_⟩
    rw [List.map_cons, List.reverse_cons, List.append_assoc]
    exact standsAfter

/-- **A command line that is written as it is meant to be** is accepted, and gives what stands on
it. -/
theorem Reader.standard_eq {given : List (Occurrence ι)} (well : WellDeclared declared)
    (written : WellWritten declared given) :
    Reader.standard declared (given.flatMap (·.arguments)) =
      .ok (.ofGiven declared (given.map Occurrence.entry).reverse) := by
  obtain ⟨after, reads, stands⟩ := (State.stands_given []).exists_reads well written.declared
    written.spelt written.fits written.once (fun _ _ => List.not_mem_nil)
  rw [List.append_nil] at stands
  refine bind_eq_ok.mpr ⟨after, reads, ?_⟩
  refine bind_eq_ok.mpr ⟨_, stands, if_pos ?_⟩
  have isGiven {name : ι} : ((given.map Occurrence.entry).reverse.lookup name).isSome ↔
      name ∈ given.map (·.option.name) := by
    rw [isSome_lookup_iff, Occurrence.map_entry, List.mem_reverse]
  refine List.all_eq_true.mpr fun option member => ?_
  rw [Bool.or_eq_true, List.all_eq_true]
  by_cases named : option.name ∈ given.map (·.option.name)
  · right
    intro required there
    obtain ⟨one, occurs, same⟩ := List.mem_map.mp named
    have option_eq := well.names _ (written.declared one occurs) option member same
    exact isGiven.mpr (written.complete one occurs required (option_eq ▸ there))
  · left
    rw [Option.isNone_iff_eq_none, ← Option.not_isSome_iff_eq_none, isGiven]
    exact named

/-- What is accepted is complete. -/
theorem Reader.standard_eq_ok {arguments : List String} {matched : Matches ι}
    (accepted : Reader.standard declared arguments = .ok matched) :
    ∃ closed : State ι, closed.isComplete declared ∧ matched = .ofGiven declared closed.given := by
  obtain ⟨last, -, done⟩ := bind_eq_ok.mp accepted
  obtain ⟨closed, -, checked⟩ := bind_eq_ok.mp done
  split at checked
  · next complete =>
    cases checked
    exact ⟨closed, complete, rfl⟩
  · cases checked

/-- **The reader that comes with the library is as documented.** -/
theorem Reader.documented_standard : (Reader.standard : Reader ι).Documented where
  accepts well written := ⟨_, Reader.standard_eq well written⟩
  gives {declared given matched} well written accepted := by
    cases (Reader.standard_eq well written).symm.trans accepted
    intro one member
    -- Each option occurs once, so the value that is looked up is its own.
    have once : ((given.map Occurrence.entry).reverse.map (·.1)).Nodup := by
      rw [Occurrence.map_entry, List.nodup_reverse]
      exact written.once
    have there : one.entry ∈ (given.map Occurrence.entry).reverse :=
      List.mem_reverse.mpr (List.mem_map_of_mem member)
    refine ⟨isSome_lookup_iff.mpr (List.mem_map_of_mem there), ?_⟩
    intro value asked
    have found := lookup_eq_some_of_mem once there
    simp only [Matches.ofGiven]
    rw [found, Option.mem_def.mp asked]
    rfl
  givesOnly {declared given matched} well written accepted name isGiven := by
    cases (Reader.standard_eq well written).symm.trans accepted
    have member := isSome_lookup_iff.mp isGiven
    rw [Occurrence.map_entry, List.mem_reverse] at member
    exact member
  usual well accepted option member absent := by
    obtain ⟨closed, -, rfl⟩ := Reader.standard_eq_ok accepted
    have missing := Option.not_isSome_iff_eq_none.mp absent
    simp only [Matches.ofGiven]
    rw [missing, well.find?_name member]
    rfl
  requires well accepted option member isGiven name there := by
    obtain ⟨closed, complete, rfl⟩ := Reader.standard_eq_ok accepted
    have checked := List.all_eq_true.mp complete option member
    rw [Bool.or_eq_true, Option.isNone_iff_eq_none, List.all_eq_true] at checked
    rcases checked with missing | required
    · exact absurd isGiven (by simp [Matches.ofGiven, missing])
    · exact required name there

end Lines

end PromptLine.CommandLine
