import PromptLine.CommandLine.Declared

/-!
# What a reader of command lines promises

The program leaves its arguments to a reader, and relies on what the documentation of readers says
(`PromptLine.CommandLine.Reader.Documented`): options that are written as the documentation shows
are accepted with their values, the other options have their usual values, and an option that
requires another one is never accepted without it. Nothing is said about arguments that are written
in another way, but that the last two of these hold for them as well if they are accepted.
-/

namespace PromptLine.CommandLine

variable {ι : Type}

/-- Whether an option of a kind can be given with a value, or without one. -/
def Kind.Fits (value? : Option String) : Kind → Prop
  | .flag => value? = none
  | .size => ∃ size : Nat, size < UInt64.size ∧ value? = some (toString size)
  | .text => ∃ text, text ≠ "" ∧ value? = some text
  | .asks _ => False

/-- **Declarations that a reader can work with.** They can be told apart, a name in full is made of
letters, digits and dashes and does not start with a dash, usual values fit, and the options that
one of them requires are declared too. -/
structure WellDeclared (declared : List (Declared ι)) : Prop where
  names : ∀ first ∈ declared, ∀ second ∈ declared, first.name = second.name → first = second
  longs : ∀ first ∈ declared, ∀ second ∈ declared, first.long = second.long → first = second
  letters : ∀ first ∈ declared, ∀ second ∈ declared,
    first.letter?.isSome → first.letter? = second.letter? → first = second
  spelling : ∀ option ∈ declared, option.long ≠ "" ∧ option.long.toList.head? ≠ some '-' ∧
    (option.long.toList.all fun c => c.isAlphanum || c == '-') ∧
    option.letter?.all Char.isAlphanum
  usual : ∀ option ∈ declared, ∀ value ∈ option.usual?, option.kind.Fits (some value)
  requires : ∀ option ∈ declared, ∀ name ∈ option.requires, name ∈ declared.map (·.name)

/-- **How an option is written**: in full after two dashes, with its value after an equals sign, or
as its letter after one dash, with its value as the next argument. A value that starts with a dash
would be taken for an option there. -/
inductive Spells (option : Declared ι) : Option String → List String → Prop where
  | equals (value : String) :
      Spells option (some value) ["--" ++ option.long ++ "=" ++ value]
  | next {letter : Char} {value : String} (known : option.letter? = some letter)
      (undashed : value.toList.head? ≠ some '-') :
      Spells option (some value) [String.ofList ['-', letter], value]
  | full : Spells option none ["--" ++ option.long]
  | brief {letter : Char} (known : option.letter? = some letter) :
      Spells option none [String.ofList ['-', letter]]

/-- An option as it stands on a command line. -/
structure Occurrence (ι : Type) where
  option : Declared ι
  value? : Option String
  arguments : List String

/-- **A command line as it is meant to be written**: declared options, each of them once and with a
value that fits, and with every option that one of them requires. -/
structure WellWritten (declared : List (Declared ι)) (given : List (Occurrence ι)) : Prop where
  declared : ∀ one ∈ given, one.option ∈ declared
  spelt : ∀ one ∈ given, Spells one.option one.value? one.arguments
  fits : ∀ one ∈ given, one.option.kind.Fits one.value?
  once : (given.map (·.option.name)).Nodup
  complete : ∀ one ∈ given, ∀ name ∈ one.option.requires, name ∈ given.map (·.option.name)

/-- **What is documented about a reader.** -/
structure Reader.Documented (read : Reader ι) : Prop where
  /-- A command line that is written as it is meant to be is accepted. -/
  accepts {declared : List (Declared ι)} {given : List (Occurrence ι)} :
    WellDeclared declared → WellWritten declared given →
      ∃ matched, read declared (given.flatMap (·.arguments)) = .ok matched
  /-- The options that stand on it are given, with their values. -/
  gives {declared : List (Declared ι)} {given : List (Occurrence ι)} {matched : Matches ι} :
    WellDeclared declared → WellWritten declared given →
      read declared (given.flatMap (·.arguments)) = .ok matched →
      ∀ one ∈ given, matched.isGiven one.option.name ∧
        ∀ value ∈ one.value?, matched.value? one.option.name = some value
  /-- No other option is given by it. -/
  givesOnly {declared : List (Declared ι)} {given : List (Occurrence ι)} {matched : Matches ι} :
    WellDeclared declared → WellWritten declared given →
      read declared (given.flatMap (·.arguments)) = .ok matched →
      ∀ name, matched.isGiven name → name ∈ given.map (·.option.name)
  /-- An option that is not given has its usual value, if it has one. -/
  usual {declared : List (Declared ι)} {arguments : List String} {matched : Matches ι} :
    WellDeclared declared → read declared arguments = .ok matched →
      ∀ option ∈ declared, ¬ matched.isGiven option.name →
        matched.value? option.name = option.usual?
  /-- An option is accepted only together with those that it requires. -/
  requires {declared : List (Declared ι)} {arguments : List String} {matched : Matches ι} :
    WellDeclared declared → read declared arguments = .ok matched →
      ∀ option ∈ declared, matched.isGiven option.name →
        ∀ name ∈ option.requires, matched.isGiven name

end PromptLine.CommandLine
