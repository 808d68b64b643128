import Resumable.Text.Glyph

/-!
# Quoted texts

A text between quotes in which every character is visible: quotes, backslashes and the common
controls have escapes of two characters, and every other character without a glyph of its own is
given by its code point.
-/

namespace Resumable.Text

/-- A character inside a quoted text. -/
def visibleChar (c : Char) : List Char :=
  match c with
  | '"' => ['\\', '"']
  | '\\' => ['\\', '\\']
  | '\n' => ['\\', 'n']
  | '\r' => ['\\', 'r']
  | '\t' => ['\\', 't']
  | '\x00' => ['\\', '0']
  | c => if hasGlyph c then [c] else "\\u\x7b".toList ++ Nat.toDigits 16 c.toNat ++ ['\x7d']

/-- A text between quotes, with nothing invisible in it. -/
def visible (text : String) : String :=
  "\"" ++ String.ofList (text.toList.flatMap visibleChar) ++ "\""

end Resumable.Text
