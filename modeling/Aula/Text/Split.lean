/-
Cutting the parenthesised part out of a statement, and cutting such a
part at a separator that stands outside double quotes.

A quote opens a quoted stretch and the next one closes it; a stretch
that is never closed runs to the end. A separator inside a stretch is
ordinary text.
-/
import Aula.Text.Blank

namespace Aula.Text

-- =================================================== cutting at a mark

/-- The pieces of a text between the separators outside quotes, where
`quoted` tells whether the text begins inside a quoted stretch. -/
def splitFrom (separator : Char) : (quoted : Bool) → Text → List Text
  | _, [] => [[]]
  | quoted, c :: s =>
    if c = '"' then
      (splitFrom separator (!quoted) s).modifyHead (c :: ·)
    else if c = separator ∧ quoted = false then
      [] :: splitFrom separator false s
    else
      (splitFrom separator quoted s).modifyHead (c :: ·)

/-- The pieces of a text between the separators outside quotes. They
are not trimmed, and may be empty; there is always one. -/
def split (separator : Char) (s : Text) : List Text :=
  splitFrom separator false s

/-- The pieces of a text between the separators outside quotes, each
trimmed. -/
def splitTrimmed (separator : Char) (s : Text) : List Text :=
  (split separator s).map trim

-- ========================================== the text in parentheses

/-- The text between the first `(` and the last `)`, trimmed; there is
none unless that `)` stands after that `(`. -/
def parenthesized? (s : Text) : Option Text :=
  match s.dropWhile (· ≠ '(') with
  | [] => none
  | _ :: s =>
    match s.reverse.dropWhile (· ≠ ')') with
    | [] => none
    | _ :: s => some (trim s.reverse)

end Aula.Text
