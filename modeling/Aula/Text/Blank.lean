/-
Blanks: the characters with the Unicode property White_Space, and the
trimming of texts at both ends. Layout between tokens, inside a
statement and around the parts of a header all mean this one class.

The zero-width characters (U+200B, U+200D, U+2060, U+FEFF) and the
separators U+001C to U+001F are not in it.
-/
import Aula.Text.CharClass

namespace Aula

/-- The characters with the property White_Space. -/
def CharClass.blank : CharClass where
  ranges :=
    [(0x0009, 0x000D), (0x0020, 0x0020), (0x0085, 0x0085),
     (0x00A0, 0x00A0), (0x1680, 0x1680), (0x2000, 0x200A),
     (0x2028, 0x2029), (0x202F, 0x202F), (0x205F, 0x205F),
     (0x3000, 0x3000)]

/-- Whether a character is blank. -/
def isBlank (c : Char) : Bool := CharClass.blank.has c

namespace Text

/-- The text without the blanks it begins with. -/
def trimStart (s : Text) : Text := s.dropWhile isBlank

/-- The text without the blanks it ends with. -/
def trimEnd (s : Text) : Text := (s.reverse.dropWhile isBlank).reverse

/-- The text without the blanks at either end. -/
def trim (s : Text) : Text := trimEnd (trimStart s)

end Text

end Aula
