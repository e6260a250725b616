/-!
# Numbers in text

Sizes are read from and written to text in decimal. A size is below `sizeLimit`, so that the sum of
two sizes that a caller adds up stays meaningful, and reading refuses anything that is not one.
-/

namespace PromptLine.Text

/-- Sizes are less than this. -/
def sizeLimit : Nat := UInt64.size

/-- The value of a decimal digit. -/
def digit? (c : Char) : Option Nat :=
  if '0' ≤ c ∧ c ≤ '9' then some (c.toNat - '0'.toNat) else none

/-- The value of a run of decimal digits that follow what has been read so far. -/
def digitsFrom? (read : Nat) : List Char → Option Nat
  | [] => some read
  | c :: rest => do digitsFrom? (10 * read + (← digit? c)) rest

/-- A number below a limit: decimal digits, at least one of them, after an optional plus sign.
Leading zeros are allowed; blanks, other signs and separators are not. -/
def number? (limit : Nat) (text : List Char) : Option Nat :=
  let digits := match text with
    | '+' :: rest => rest
    | _ => text
  if digits.isEmpty then none else (digitsFrom? 0 digits).filter (· < limit)

/-- A size, written in decimal. -/
def size? (text : String) : Option Nat :=
  number? sizeLimit text.toList

/-- A text with as many blanks before it as it needs to reach a width. A longer text stays whole. -/
def rightAligned (width : Nat) (text : String) : String :=
  String.ofList (List.replicate (width - text.length) ' ') ++ text

end PromptLine.Text
