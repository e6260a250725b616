import Mathlib.Data.Nat.Digits.Defs
import PromptLine.Text.Number

/-!
# Reading a number that was written

A number written in decimal is read back as that number if it is below the limit of what is read
(`PromptLine.Text.number?_toDigits`), and so a size is (`PromptLine.Text.size?_toString`).
-/

namespace PromptLine.Text

/-- The value of a digit is how far its code is from that of zero. -/
theorem digit?_of_isDigit {c : Char} (digit : c.isDigit) : digit? c = some (c.toNat - '0'.toNat) := by
  apply if_pos
  simpa [Char.isDigit, Char.le_def] using digit

/-- Digits are read from left to right, each of them as the last one so far. -/
theorem digitsFrom?_of_isDigit {digits : List Char} (all : ∀ c ∈ digits, c.isDigit) (read : Nat) :
    digitsFrom? read digits = some (Nat.ofDigitChars 10 digits read) := by
  induction digits generalizing read with
  | nil => rfl
  | cons c rest ih =>
    obtain ⟨digit, others⟩ := List.forall_mem_cons.mp all
    unfold digitsFrom?
    rw [digit?_of_isDigit digit, Nat.ofDigitChars_cons]
    exact ih others _

/-- A text of digits has no sign, so that its value is that of all of them. -/
theorem number?_of_isDigit {limit : Nat} {digits : List Char} (nonempty : digits ≠ [])
    (all : ∀ c ∈ digits, c.isDigit) :
    number? limit digits = (some (Nat.ofDigitChars 10 digits 0)).filter (· < limit) := by
  have value : digitsFrom? 0 digits = some (Nat.ofDigitChars 10 digits 0) :=
    digitsFrom?_of_isDigit all 0
  unfold number?
  split
  · next rest =>
    have sign : '+'.isDigit := all '+' List.mem_cons_self
    exact absurd sign (by decide)
  · simp [value, nonempty]

/-- **A number that was written** in decimal is read back. -/
theorem number?_toDigits {limit n : Nat} (small : n < limit) :
    number? limit (Nat.toDigits 10 n) = some n := by
  have digits : ∀ c ∈ Nat.toDigits 10 n, c.isDigit := fun _ =>
    Nat.isDigit_of_mem_toDigits (by decide) (by decide)
  rw [number?_of_isDigit Nat.toDigits_ne_nil digits, Nat.ofDigitChars_ten_toDigits]
  simp [small]

/-- A number that is small enough is read back as it was written. -/
theorem size?_toString {n : Nat} (small : n < sizeLimit) : size? (toString n) = some n := by
  unfold size?
  rw [Nat.toString_eq_repr, Nat.toList_repr]
  exact number?_toDigits small

end PromptLine.Text
