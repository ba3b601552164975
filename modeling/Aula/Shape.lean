/-
The shapes of the words and values that statements are made of. Each
is written so that one character in front decides what comes next: a
value takes the blanks behind it with it, and the alternatives of a
choice begin with different characters.
-/
import Aula.Keyword
import Aula.Pattern.Basic
import Aula.Text.Blank

namespace Aula.Shape

open Pattern (one many opt oneOrMore)

-- =============================================================== layout

/-- Any number of blanks. -/
def blanks : Pattern := many (one .blank)

/-- At least one blank. -/
def gap : Pattern := oneOrMore (one .blank)

-- ================================================================ words

/-- A letter or underscore, then letters, underscores and digits. -/
def identifier : Pattern := one .nameStart ++ many (one .nameRest)

/-- What a variable may be named: an identifier that is not
reserved. -/
def name : Pattern := .except identifier Keyword.reserved

-- =============================================================== values

/-- Digits, at least one. -/
def digits : Pattern := oneOrMore (one .digit)

/-- A whole number with an optional minus sign. -/
def integer : Pattern := opt "-" ++ digits

/-- A whole number, with or without decimals. -/
def number : Pattern := integer ++ opt ("." ++ digits)

/-- A string: anything but quotes and newlines, between quotes. -/
def string : Pattern := "\"" ++ many (one (.noneOf "\"\n")) ++ "\""

/-- A truth value. -/
def truth : Pattern := "True" ||| "False"

/-- What a list may hold. -/
def literal : Pattern := number ||| string ||| truth

/-- Operands joined by operators of a class, with blanks around each. An
operand is a literal of the given shape or any identifier, a reserved
word included. -/
def chain (literal : Pattern) (operators : CharClass) : Pattern :=
  let operand := (literal ||| identifier) ++ blanks
  operand ++ many (one operators ++ blanks ++ operand)

-- ============================================================ statements

/-- A declaration: the keyword, a name and an optional first value,
which includes the blanks behind it. -/
def declaration (keyword value : Pattern) : Pattern :=
  keyword ++ gap ++ name ++ blanks ++ opt ("=" ++ blanks ++ value) ++ ";"

/-- The first values of a list, in braces. -/
def items : Pattern :=
  let item := literal ++ blanks
  "\x7b" ++ blanks ++ opt (item ++ many ("," ++ blanks ++ item)) ++ "\x7d"

/-- The declaration of a list: a name, an optional length in brackets
and optional first values. -/
def listDeclaration : Pattern :=
  let length := "[" ++ blanks ++ opt (digits ++ blanks) ++ "]" ++ blanks
  "list" ++ gap ++ name ++ blanks ++ opt length
    ++ opt ("=" ++ blanks ++ items ++ blanks) ++ ";"

/-- A value of no fixed type. -/
def anyValue : Pattern := chain (number ||| string) .arithmetic

/-- An assignment, plain or combined with an operator. -/
def assignment : Pattern :=
  name ++ blanks ++ opt (one .arithmetic) ++ "=" ++ blanks ++ anyValue ++ ";"

/-- Text in parentheses, loosely: strings, and anything else but quotes
and parentheses. What it says is checked later. -/
def parenthesized : Pattern := "(" ++ many (string ||| one (.noneOf "\"()")) ++ ")"

/-- Text in parentheses that holds no other parenthesis. -/
def flatParenthesized : Pattern := "(" ++ many (one (.noneOf "()")) ++ ")"

end Aula.Shape
