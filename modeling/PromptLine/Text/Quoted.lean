import PromptLine.Text.Unprintable

/-!
# Quoted characters

A character in a diagnostic text stands between single quotes. The quote itself, the backslash and
the four commonest control characters have short escapes; a character without a glyph of its own
is shown by its code point.
-/

namespace PromptLine.Text

/-- A number in lower-case hexadecimal. -/
def hexadecimal (n : Nat) : String :=
  String.ofList (Nat.toDigits 16 n)

/-- How a character is written between single quotes. -/
def escaped (c : Char) : String :=
  match c with
  | '\x00' => "\\0"
  | '\t' => "\\t"
  | '\r' => "\\r"
  | '\n' => "\\n"
  | '\'' => "\\'"
  | '\\' => "\\\\"
  | _ =>
    if isUnprintable c then "\\u\x7b" ++ hexadecimal c.toNat ++ "\x7d" else c.toString

/-- A character between quotation marks. -/
def quoted (c : Char) : String :=
  "'" ++ escaped c ++ "'"

end PromptLine.Text
