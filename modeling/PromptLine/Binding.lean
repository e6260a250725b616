import PromptLine.Key

/-!
# Key bindings

A table says what the keys do that are not simply typed. The first entry for a key decides.
-/

namespace PromptLine

/-- What a key can do to the line. -/
inductive Action where
  | escape
  | home
  | toEnd
  | moveLeft
  | moveRight
  | historyPrevious
  | historyNext
  | backspace
  | delete
  | enter
  | tab
deriving DecidableEq, Repr

namespace Action

/-- The actions, in the order in which they are listed. -/
def all : List Action :=
  [.escape, .home, .toEnd, .moveLeft, .moveRight, .historyPrevious, .historyNext, .backspace,
    .delete, .enter, .tab]

/-- How an action is called in a description. -/
def name : Action → String
  | .escape => "Escape"
  | .home => "Home"
  | .toEnd => "End"
  | .moveLeft => "MoveLeft"
  | .moveRight => "MoveRight"
  | .historyPrevious => "HistoryPrevious"
  | .historyNext => "HistoryNext"
  | .backspace => "Backspace"
  | .delete => "Delete"
  | .enter => "Enter"
  | .tab => "Tab"

/-- The action of a name. -/
def ofName? (name : String) : Option Action := all.find? fun action => action.name == name

/-- No action is missing from the list. -/
theorem mem_all (action : Action) : action ∈ all := by
  cases action <;> decide

end Action

/-- One entry of the table: what a key does when exactly these modifiers are held. -/
structure Binding where
  code : KeyCode
  modifiers : Modifiers
  action : Action
deriving DecidableEq, Repr

namespace Binding

/-- Whether an entry is about a key. The character of the key does not matter. -/
def matchesKey (key : Key) (binding : Binding) : Bool :=
  binding.code == key.code && binding.modifiers == key.modifiers

end Binding

/-- **A table of bindings.** The first one that fits a key decides. -/
structure Bindings where
  entries : List Binding := []
deriving DecidableEq, Repr

namespace Bindings

/-- The table in which no key is bound. -/
def empty : Bindings := {}

/-- The keys that are bound unless something else is asked for. -/
def standard : Bindings where
  entries :=
    [⟨.escape, .none, .escape⟩, ⟨.home, .none, .home⟩, ⟨.toEnd, .none, .toEnd⟩,
      ⟨.left, .none, .moveLeft⟩, ⟨.right, .none, .moveRight⟩, ⟨.up, .none, .historyPrevious⟩,
      ⟨.down, .none, .historyNext⟩, ⟨.backspace, .none, .backspace⟩, ⟨.delete, .none, .delete⟩,
      ⟨.enter, .none, .enter⟩, ⟨.tab, .none, .tab⟩,
      ⟨.char 'a', .controlOnly, .home⟩, ⟨.char 'e', .controlOnly, .toEnd⟩]

/-- The table with one more entry at its end. -/
def add (binding : Binding) (bindings : Bindings) : Bindings where
  entries := bindings.entries ++ [binding]

/-- What a key does: the action of the first entry about it. -/
def find? (key : Key) (bindings : Bindings) : Option Action :=
  (bindings.entries.find? (Binding.matchesKey key)).map Binding.action

/-- The number of bindings, those that are never reached among them. -/
def length (bindings : Bindings) : Nat := bindings.entries.length

/-- Whether no key at all is bound. -/
def isEmpty (bindings : Bindings) : Bool := bindings.entries.isEmpty

end Bindings

end PromptLine
