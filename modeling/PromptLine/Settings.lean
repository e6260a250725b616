import PromptLine.History

/-!
# Settings of the editor

What a user of the editor may choose. Every choice has a usual value.
-/

namespace PromptLine

/-- What a user of the editor can choose. -/
structure Settings where
  historyCapacity : Nat := History.defaultCapacity
  /-- The number of spaces that the tab key puts in. -/
  tabWidth : Nat := 4
  /-- Whether an empty line is kept in the history too. -/
  keepsEmptyLines : Bool := true
deriving DecidableEq, Repr

/-- The number of spaces that the tab key puts in, unless another one is asked for. -/
def Settings.defaultTabWidth : Nat := ({} : Settings).tabWidth

end PromptLine
