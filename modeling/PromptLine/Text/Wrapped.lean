/-!
# Wrapped text

A text of words with one space between them is set in lines of a width. A word stands on the line
of the word before it if it fits there, and otherwise starts a line; a word that is wider than a
line sticks out.
-/

namespace PromptLine.Text

/-- Lines for the words that follow when a line has been started. -/
def fill (width : Nat) (line : String) : List String → List String
  | [] => [line]
  | word :: rest =>
    let longer := line ++ " " ++ word
    if longer.length ≤ width then fill width longer rest else line :: fill width word rest

/-- The lines of a text. -/
def wrapped (width : Nat) (text : String) : List String :=
  match text.splitOn " " with
  | [] => []
  | word :: rest => fill width word rest

end PromptLine.Text
