/-
Operands: what may stand on either side of an operator. A condition
takes identifiers, whole numbers and quoted texts. Unlike the strings
of a statement, a quoted text here may run over several lines.

A reserved word has the shape of an identifier; the checks name it as
reserved before they look at its shape.
-/
import Aula.Fault
import Aula.Shape

namespace Aula.Operand

-- =============================================================== shapes

/-- Whether the whole text is an identifier. -/
def isIdentifier (s : Text) : Bool := Shape.identifier.covers s

/-- Whether the whole text is a whole number. -/
def isInteger (s : Text) : Bool := Shape.integer.covers s

/-- Anything but quotes, between quotes. -/
def quotedText : Pattern := "\"" ++ .many (.one (.noneOf "\"")) ++ "\""

/-- Whether the whole text is a quoted text. -/
def isQuotedText (s : Text) : Bool := quotedText.covers s

/-- Whether the whole text is an operand. -/
def isOperand (s : Text) : Bool := isIdentifier s || isInteger s || isQuotedText s

-- =============================================================== checks

/-- The word must satisfy `shape`, and must not be reserved; `context`
is where it was found. -/
def checkShape (shape : Text → Bool) (word context : Text) : Except Cause Unit :=
  if Keyword.isReserved word then .error (.reservedWord word context)
  else if shape word then .ok ()
  else .error (.invalidOperand word context)

/-- The word must be a variable. -/
def checkIdentifier (word context : Text) : Except Cause Unit :=
  checkShape isIdentifier word context

/-- The word must be an operand. -/
def check (word context : Text) : Except Cause Unit :=
  checkShape isOperand word context

end Aula.Operand
