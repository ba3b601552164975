/-
Quoted text: how a message shows a piece of the program. The text
stands between double quotes, on one line, and every character in it
can be told apart by eye.

Six characters have a short form (`\t`, `\r`, `\n`, `\0`, `\"`, `\\`).
Characters that are drawn on their neighbour or not at all are written
by their code point. Everything else stands for itself.
-/
import Aula.Text.DefaultIgnorable
import Aula.Text.ExtendingMark
import Aula.Text.Unprintable

namespace Aula.Text

/-- A character by its code point: `\u` and the hexadecimal number in
braces. -/
def codePoint (c : Char) : Text := "\\u\x7b" ++ hexadecimal c.toNat ++ "\x7d"

/-- Whether a character cannot be told by eye: it is drawn on its
neighbour, or not at all. -/
def isHidden (c : Char) : Bool :=
  CharClass.extendingMark.has c || CharClass.defaultIgnorable.has c
    || CharClass.unprintable.has c

/-- The form of a character between quotes. -/
def escape (c : Char) : Text :=
  match c with
  | '\t' => "\\t"
  | '\r' => "\\r"
  | '\n' => "\\n"
  | '\x00' => "\\0"
  | '"' => "\\\""
  | '\\' => "\\\\"
  | c => if isHidden c then codePoint c else [c]

/-- A text between quotes. -/
def quoted (s : Text) : Text := "\"" ++ s.flatMap escape ++ "\""

end Aula.Text
