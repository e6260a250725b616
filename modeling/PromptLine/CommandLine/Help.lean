import PromptLine.CommandLine
import PromptLine.Terminal.Ansi
import PromptLine.Text.Wrapped

/-!
# The help page

What is said about the program when help is asked for: what it is, how it is started, and what its
options mean. Sentences are wrapped to the width of the page. On a terminal, headings are bold and
underlined, and what has to be typed as it stands is bold.
-/

namespace PromptLine.CommandLine

/-- The paper that help is written on. -/
structure Page where
  width : Nat := 100
  styled : Bool := false
deriving DecidableEq, Repr

namespace Declared
variable {ι : Type}

/-- What stands for the value of an option: its name in capitals. -/
def placeholder? (option : Declared ι) : Option String :=
  if option.kind.takesValue then
    some (option.long.map fun c => if c = '-' then '_' else c.toUpper)
  else none

/-- What an option means, with its usual value if there is one. -/
def explanation (option : Declared ι) : String :=
  match option.usual? with
  | some value => option.meaning ++ " [default: " ++ value ++ "]"
  | none => option.meaning

end Declared

namespace Page

/-- The title of a part of the page. -/
def heading (page : Page) (text : String) : String :=
  if page.styled then Ansi.rendered ["1", "4"] text else text

/-- What is typed as it stands. -/
def typed (page : Page) (text : String) : String :=
  if page.styled then Ansi.rendered ["1"] text else text

/-- The number of columns left free before the meaning of an option. -/
def indent : Nat := 10

/-- How an option is written, with its letter if it has one and with its value. -/
def spelling (page : Page) (option : Declared Name) : String :=
  let letter := match option.letter? with
    | some c => page.typed ("-" ++ c.toString) ++ ", "
    | none => "    "
  let value := match option.placeholder? with
    | some value => " <" ++ value ++ ">"
    | none => ""
  "  " ++ letter ++ page.typed ("--" ++ option.long) ++ value

/-- The lines about an option. -/
def option (page : Page) (option : Declared Name) : List String :=
  let margin := String.ofList (List.replicate indent ' ')
  page.spelling option ::
    (Text.wrapped (page.width - indent) option.explanation).map (margin ++ ·)

/-- The lines of the page: what the program is, how it is started, and its options. -/
def lines (page : Page) : List String :=
  Text.wrapped page.width "Try out the line editor: cursor keys, history, wrapping" ++
    ["", page.heading "Usage:" ++ " " ++ page.typed "line_editor_repl" ++ " [OPTIONS]",
      "", page.heading "Options:"] ++
    declared.flatMap page.option

/-- The whole page, each line ended by a line break. -/
def text (page : Page) : String := String.join (page.lines.map (· ++ "\n"))

end Page

end PromptLine.CommandLine
