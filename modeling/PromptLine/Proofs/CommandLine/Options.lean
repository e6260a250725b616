import PromptLine.CommandLine
import PromptLine.Proofs.CommandLine.Reader

/-!
# The options of the program

Whatever reader the program is built with, as long as it is as documented, the options that a user
writes are read as they were meant (`PromptLine.CommandLine.parseWith_request`): in whatever order
they stand, in full or by their letters, and whatever characters the name of the log file is made
of. And a command line that asks for a log file is accepted only if it enables logging, whatever
else it is made of.

The documentation speaks of declared options and of texts. What is left to show is that the program
declares its options so that they can be told apart and written as `Written.arguments` says, and
that it takes the values it asked for out of what the reader found.
-/

namespace PromptLine.CommandLine

/-! ### Options as they are written -/

/-- An option as a user writes it, by its letter if it is `short`. There is no letter for the log
file. -/
inductive Written where
  | historySize (short : Bool) (size : Nat)
  | tabWidth (short : Bool) (width : Nat)
  | enableLogging (short : Bool)
  | logFile (path : String)
deriving DecidableEq, Repr

namespace Written

/-- The name of an option that was written. -/
def name : Written → Name
  | .historySize _ _ => .historySize
  | .tabWidth _ _ => .tabWidth
  | .enableLogging _ => .enableLogging
  | .logFile _ => .logFile

/-- The value that is written, if the option takes one. -/
def value? : Written → Option String
  | .historySize _ size | .tabWidth _ size => some (toString size)
  | .enableLogging _ => none
  | .logFile path => some path

/-- The arguments that an option is written as. -/
def arguments : Written → List String
  | .historySize false size => ["--history-size=" ++ toString size]
  | .historySize true size => ["-s", toString size]
  | .tabWidth false width => ["--tab-width=" ++ toString width]
  | .tabWidth true width => ["-t", toString width]
  | .enableLogging false => ["--enable-logging"]
  | .enableLogging true => ["-l"]
  | .logFile path => ["--log-file=" ++ path]

/-- The number in an option is one that can be read, and the name of a log file is not empty. -/
def IsFit : Written → Prop
  | .historySize _ size | .tabWidth _ size => size < 2 ^ 64
  | .enableLogging _ => True
  | .logFile path => path ≠ ""

/-- The option that is written, as it stands on a command line. -/
def occurrence (written : Written) : Occurrence Name where
  option := written.name.declared
  value? := written.value?
  arguments := written.arguments

theorem spells_equals {option : Declared Name} {text : String}
    (spelling : text = "--" ++ option.long ++ "=") (value : String) :
    Spells option (some value) [text ++ value] :=
  spelling ▸ .equals value

/-- A number does not start with a dash. -/
theorem head?_toString_ne (n : Nat) : (toString n).toList.head? ≠ some '-' := by
  rw [Nat.toString_eq_repr, Nat.toList_repr]
  intro dash
  have digit := Nat.isDigit_of_mem_toDigits (by decide) (by decide) (List.mem_of_mem_head? dash)
  exact absurd digit (by decide)

/-- An option is written as the documentation shows. -/
theorem spells (written : Written) :
    Spells written.name.declared written.value? written.arguments := by
  cases written with
  | historySize short size =>
    cases short with
    | false => exact spells_equals rfl (toString size)
    | true => exact .next rfl (head?_toString_ne size)
  | tabWidth short width =>
    cases short with
    | false => exact spells_equals rfl (toString width)
    | true => exact .next rfl (head?_toString_ne width)
  | enableLogging short =>
    cases short with
    | false => exact .full
    | true => exact .brief rfl
  | logFile path => exact spells_equals rfl path

/-- A number within its bounds and any path are values that an option takes. -/
theorem fits {written : Written} (fit : written.IsFit) :
    written.name.declared.kind.Fits written.value? := by
  cases written with
  | historySize short size => exact ⟨size, fit, rfl⟩
  | tabWidth short width => exact ⟨width, fit, rfl⟩
  | enableLogging short => rfl
  | logFile path => exact ⟨path, fit, rfl⟩

end Written

/-- What a user asks for; nothing where the usual value is to stay. -/
structure Request where
  historySize? : Option Nat := none
  tabWidth? : Option Nat := none
  enableLogging : Bool := false
  logFile? : Option String := none
deriving DecidableEq, Repr

namespace Request

/-- What is asked for, with the usual values for the rest: fifty lines and four blanks. -/
def options (request : Request) : Options where
  historySize := request.historySize?.getD 50
  tabWidth := request.tabWidth?.getD 4
  enableLogging := request.enableLogging
  logFile? := request.logFile?

/-- A request that makes sense: its numbers are sizes, and a log file has a name and comes with
logging enabled. -/
structure MakesSense (request : Request) : Prop where
  historySize : ∀ size ∈ request.historySize?, size < 2 ^ 64
  tabWidth : ∀ width ∈ request.tabWidth?, width < 2 ^ 64
  logFile : ∀ path ∈ request.logFile?, path ≠ ""
  logging : request.logFile?.isSome → request.enableLogging

/-- The options that a request is written as, each by its letter or in full. -/
def written (short : Name → Bool) (request : Request) : List Written :=
  (request.historySize?.map (.historySize (short .historySize))).toList ++
    (request.tabWidth?.map (.tabWidth (short .tabWidth))).toList ++
    (if request.enableLogging then [.enableLogging (short .enableLogging)] else []) ++
    (request.logFile?.map .logFile).toList

variable {request : Request} {short : Name → Bool}

/-- A request is written with each option once. -/
theorem nodup_written (request : Request) (short : Name → Bool) :
    ((request.written short).map Written.name).Nodup := by
  obtain ⟨size? | size, width? | width, _ | _, path? | path⟩ := request
  all_goals simp [written, Written.name]

/-- An option is written only if it is asked for. -/
theorem mem_written {one : Written} : one ∈ request.written short ↔
    (∃ size ∈ request.historySize?, one = .historySize (short .historySize) size) ∨
      (∃ width ∈ request.tabWidth?, one = .tabWidth (short .tabWidth) width) ∨
      (request.enableLogging ∧ one = .enableLogging (short .enableLogging)) ∨
      ∃ path ∈ request.logFile?, one = .logFile path := by
  obtain ⟨size? | size, width? | width, _ | _, path? | path⟩ := request
  all_goals simp [written]

/-- The options that a request asks for. -/
def Asks (request : Request) : Name → Prop
  | .historySize => request.historySize?.isSome
  | .tabWidth => request.tabWidth?.isSome
  | .enableLogging => request.enableLogging
  | .logFile => request.logFile?.isSome
  | .help | .version => False

/-- The options that are written are the ones that the request asks for. -/
theorem name_mem_written (short : Name → Bool) {name : Name} :
    name ∈ (request.written short).map Written.name ↔ request.Asks name := by
  obtain ⟨size? | size, width? | width, _ | _, path? | path⟩ := request
  all_goals cases name <;> simp [written, Written.name, Asks]

/-- The value that a request has for an option, as it is written. -/
def value? (request : Request) : Name → Option String
  | .historySize => request.historySize?.map toString
  | .tabWidth => request.tabWidth?.map toString
  | .logFile => request.logFile?
  | .enableLogging | .help | .version => none

/-- An option is written with the value that is asked for. -/
theorem value?_of_mem_written {one : Written} (member : one ∈ request.written short) :
    one.value? = request.value? one.name := by
  rcases mem_written.mp member with ⟨size, asked, rfl⟩ | ⟨width, asked, rfl⟩ | ⟨-, rfl⟩ |
    ⟨path, asked, rfl⟩
  all_goals simp_all [Written.value?, Written.name, value?]

/-- The values of a request that makes sense fit their options. -/
theorem isFit_of_mem_written (sense : request.MakesSense) {one : Written}
    (member : one ∈ request.written short) : one.IsFit := by
  rcases mem_written.mp member with ⟨size, asked, rfl⟩ | ⟨width, asked, rfl⟩ | ⟨-, rfl⟩ |
    ⟨path, asked, rfl⟩
  · exact sense.historySize size asked
  · exact sense.tabWidth width asked
  · exact trivial
  · exact sense.logFile path asked

end Request

/-! ### What the program declares -/

/-- The options of the program can be told apart. -/
theorem wellDeclared : WellDeclared declared where
  names := by decide
  longs := by decide
  letters := by decide
  spelling := by decide +kernel
  usual := by
    refine List.forall_mem_map.mpr fun name _ value asked => ?_
    cases name with
    | historySize => exact ⟨50, by decide, asked.symm⟩
    | tabWidth => exact ⟨4, by decide, asked.symm⟩
    | enableLogging | logFile | help | version => cases asked
  requires := by decide

/-- Every option is declared. -/
theorem Name.declared_mem (name : Name) : name.declared ∈ CommandLine.declared :=
  List.mem_map_of_mem (by cases name <;> decide)

/-- An option is declared under its own name. -/
theorem Name.name_declared (name : Name) : name.declared.name = name := by
  cases name <;> rfl

/-- Options occur in the order in which they were written. -/
theorem Written.map_occurrence (written : List Written) :
    (written.map occurrence).map (·.option.name) = written.map name := by
  rw [List.map_map]
  exact List.map_congr_left fun one _ => one.name.name_declared

/-- The arguments of the occurrences are those that were written. -/
theorem Written.flatMap_occurrence (written : List Written) :
    (written.map occurrence).flatMap (·.arguments) = written.flatMap arguments :=
  List.flatMap_map ..

/-- Only a log file requires anything. -/
theorem Name.requires_declared {name required : Name} (requires : required ∈ name.declared.requires) :
    name = .logFile ∧ required = .enableLogging := by
  cases name with
  | logFile => exact ⟨rfl, List.mem_singleton.mp requires⟩
  | historySize | tabWidth | enableLogging | help | version => cases requires

/-- **A request is written as it is meant to be**, in whatever order its options stand. -/
theorem Request.wellWritten {request : Request} {short : Name → Bool} {written : List Written}
    (sense : request.MakesSense) (order : written.Perm (request.written short)) :
    WellWritten declared (written.map Written.occurrence) where
  declared := List.forall_mem_map.mpr fun one _ => one.name.declared_mem
  spelt := List.forall_mem_map.mpr fun one _ => one.spells
  fits := List.forall_mem_map.mpr fun one member =>
    Written.fits (isFit_of_mem_written sense (order.mem_iff.mp member))
  once := by
    rw [Written.map_occurrence]
    exact (order.map Written.name).nodup_iff.mpr (request.nodup_written short)
  complete := List.forall_mem_map.mpr fun one member required requires => by
    obtain ⟨named, rfl⟩ := Name.requires_declared requires
    rw [Written.map_occurrence]
    rcases mem_written.mp (order.mem_iff.mp member) with ⟨_, -, rfl⟩ | ⟨_, -, rfl⟩ | ⟨-, rfl⟩ |
      ⟨path, asked, rfl⟩
    · cases named
    · cases named
    · cases named
    · have enabled := sense.logging (Option.isSome_of_mem asked)
      have there := order.mem_iff.mpr (mem_written.mpr (.inr (.inr (.inl ⟨enabled, rfl⟩))))
      exact List.mem_map_of_mem there

/-! ### What the program finds out -/

/-- A size that is found as it was written is the one that was meant. -/
theorem Matches.size_of_value? {matched : Matches Name} {name : Name} {size : Nat}
    (small : size < 2 ^ 64) (found : matched.value? name = some (toString size)) :
    matched.size name = .ok size := by
  have read : Text.size? (toString size) = some size := Text.size?_toString small
  simp only [Matches.size, found, read]

section Reading
variable {read : Reader Name} (documented : read.Documented)
include documented

/-- **Without logging enabled there is no log file**, whatever the arguments are. -/
theorem isGiven_enableLogging {arguments : List String} {matched : Matches Name}
    (accepted : read declared arguments = .ok matched) (named : (matched.value? .logFile).isSome) :
    matched.isGiven .enableLogging := by
  have given : matched.isGiven .logFile := by
    by_contra absent
    have usual : matched.value? .logFile = none :=
      documented.usual wellDeclared accepted _ Name.logFile.declared_mem absent
    rw [usual] at named
    cases named
  exact documented.requires wellDeclared accepted _ Name.logFile.declared_mem given
    .enableLogging (List.mem_singleton_self _)

section Request
variable {request : Request} {short : Name → Bool} {written : List Written} {matched : Matches Name}
  (sense : request.MakesSense) (order : written.Perm (request.written short))
  (accepted : read declared (written.flatMap Written.arguments) = .ok matched)
include sense order accepted

/-- What is asked for is given, with its value. -/
theorem found_of_asks {name : Name} (asks : request.Asks name) :
    matched.isGiven name ∧ ∀ value ∈ request.value? name, matched.value? name = some value := by
  rw [← Written.flatMap_occurrence] at accepted
  obtain ⟨one, member, rfl⟩ := List.mem_map.mp ((Request.name_mem_written short).mpr asks)
  have gives := documented.gives wellDeclared (Request.wellWritten sense order) accepted
    one.occurrence (List.mem_map_of_mem (order.mem_iff.mpr member))
  rw [← Request.value?_of_mem_written member]
  exact one.name.name_declared ▸ gives

/-- What is not asked for is not given, and has its usual value. -/
theorem found_of_not_asks {name : Name} (unasked : ¬ request.Asks name) :
    ¬ matched.isGiven name ∧ matched.value? name = name.declared.usual? := by
  have absent : ¬ matched.isGiven name := by
    intro given
    rw [← Written.flatMap_occurrence] at accepted
    have written := documented.givesOnly wellDeclared (Request.wellWritten sense order) accepted
      name given
    rw [Written.map_occurrence, (order.map Written.name).mem_iff] at written
    exact unasked ((Request.name_mem_written short).mp written)
  rw [← Written.flatMap_occurrence] at accepted
  have usual := documented.usual wellDeclared accepted _ name.declared_mem
  rw [name.name_declared] at usual
  exact ⟨absent, usual absent⟩

/-- **What is found is what was asked for.** -/
theorem options_of_request : matched.options = .ok request.options := by
  have found {name : Name} (asks : request.Asks name) :=
    found_of_asks documented sense order accepted asks
  have unfound {name : Name} (unasked : ¬ request.Asks name) :=
    found_of_not_asks documented sense order accepted unasked
  -- Each field is the one that was asked for, or the usual one that is declared.
  have historySize : matched.size .historySize = .ok (request.historySize?.getD 50) := by
    cases asked : request.historySize? with
    | none =>
      have unasked : ¬ request.Asks .historySize := by simp [Request.Asks, asked]
      exact Matches.size_of_value? (by decide) (unfound unasked).2
    | some size =>
      have asks : request.Asks .historySize := by simp [Request.Asks, asked]
      have value : toString size ∈ request.value? .historySize := by simp [Request.value?, asked]
      exact Matches.size_of_value? (sense.historySize size asked) ((found asks).2 _ value)
  have tabWidth : matched.size .tabWidth = .ok (request.tabWidth?.getD 4) := by
    cases asked : request.tabWidth? with
    | none =>
      have unasked : ¬ request.Asks .tabWidth := by simp [Request.Asks, asked]
      exact Matches.size_of_value? (by decide) (unfound unasked).2
    | some width =>
      have asks : request.Asks .tabWidth := by simp [Request.Asks, asked]
      have value : toString width ∈ request.value? .tabWidth := by simp [Request.value?, asked]
      exact Matches.size_of_value? (sense.tabWidth width asked) ((found asks).2 _ value)
  have enableLogging : matched.isGiven .enableLogging = request.enableLogging := by
    have same : matched.isGiven .enableLogging ↔ request.Asks .enableLogging := by
      constructor
      · intro given
        by_contra unasked
        exact (unfound unasked).1 given
      · exact fun asks => (found asks).1
    exact Bool.eq_iff_iff.mpr same
  have logFile : matched.value? .logFile = request.logFile? := by
    cases asked : request.logFile? with
    | none =>
      have unasked : ¬ request.Asks .logFile := by simp [Request.Asks, asked]
      exact (unfound unasked).2
    | some path =>
      have asks : request.Asks .logFile := by simp [Request.Asks, asked]
      exact (found asks).2 path asked
  unfold Matches.options
  rw [historySize, tabWidth, enableLogging, logFile]
  rfl

end Request

end Reading

/-- **The command line is read as it was meant**, by every reader that is as documented. Whatever a
user asks for, in whatever order the options stand, and whether each is written in full or by its
letter, what is read is what was asked for, with the usual values for the rest, as long as the
numbers are sizes and a log file has a name and comes with logging enabled. And of all command
lines, only those that enable logging are accepted with a log file. -/
theorem parseWith_request (read : Reader Name) (documented : read.Documented) :
    (∀ (request : Request) (short : Name → Bool) (written : List Written),
      written.Perm (request.written short) →
      (∀ size ∈ request.historySize?, size < 2 ^ 64) →
      (∀ width ∈ request.tabWidth?, width < 2 ^ 64) →
      (∀ path ∈ request.logFile?, path ≠ "") →
      (request.logFile?.isSome → request.enableLogging) →
      parseWith read (written.flatMap Written.arguments) = .ok request.options) ∧
    ∀ arguments options, parseWith read arguments = .ok options →
      options.logFile?.isSome → options.enableLogging := by
  constructor
  · intro request short written order sizes widths named enabled
    have sense : request.MakesSense := ⟨sizes, widths, named, enabled⟩
    obtain ⟨matched, accepted⟩ :=
      documented.accepts wellDeclared (Request.wellWritten sense order)
    rw [Written.flatMap_occurrence] at accepted
    exact bind_eq_ok.mpr ⟨matched, accepted, options_of_request documented sense order accepted⟩
  · intro arguments options accepted named
    obtain ⟨matched, reads, found⟩ := bind_eq_ok.mp accepted
    obtain ⟨historySize, -, rest⟩ := bind_eq_ok.mp found
    obtain ⟨tabWidth, -, done⟩ := bind_eq_ok.mp rest
    cases done
    exact isGiven_enableLogging documented reads named

/-- A log file whose name looks like options, before the option that it needs, and the largest size
by its letter between them, as the reader reads them that comes with the library. -/
theorem parseWith_request_mixed :
    let request : Request :=
      { tabWidth? := some 18446744073709551615, enableLogging := true, logFile? := some "-l a=b" }
    let short (name : Name) : Bool := name = .tabWidth
    let written : List Written :=
      [.logFile "-l a=b", .tabWidth true 18446744073709551615, .enableLogging false]
    let arguments := ["--log-file=-l a=b", "-t", "18446744073709551615", "--enable-logging"]
    (Reader.standard : Reader Name).Documented ∧
      written.Perm (request.written short) ∧ 18446744073709551615 ∈ request.tabWidth? ∧
      18446744073709551615 < 2 ^ 64 ∧ request.logFile?.isSome ∧
      written.flatMap Written.arguments = arguments ∧
      parseWith Reader.standard arguments =
        .ok { historySize := 50, tabWidth := 18446744073709551615, enableLogging := true,
              logFile? := some "-l a=b" } ∧
      request.options.enableLogging := by
  intro request short written arguments
  have documented : (Reader.standard : Reader Name).Documented := Reader.documented_standard
  have order : written.Perm (request.written short) := by decide
  have spelt : written.flatMap Written.arguments = arguments := by decide +kernel
  have accepted : parseWith Reader.standard arguments = .ok request.options := by
    rw [← spelt]
    apply (parseWith_request Reader.standard documented).1 request short written order
    · exact nofun
    · intro width asked
      cases asked
      decide
    · intro path asked
      cases asked
      decide
    · exact fun _ => rfl
  exact ⟨documented, order, rfl, by decide, rfl, spelt, accepted,
    (parseWith_request Reader.standard documented).2 arguments request.options accepted rfl⟩

end PromptLine.CommandLine
