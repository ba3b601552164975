/-
Outputs: the text in the parentheses of `kiara.salida`. It is a list of
segments between commas. A segment is a variable, or pieces joined by
`+`, each a quoted text or a variable. A quoted text on its own may be
output, but only as the single segment.
-/
import Aula.Operand
import Aula.Text.Split

namespace Aula.Output

/-- The word must be a variable; `segment` is where it was found. -/
def checkVariable (word segment : Text) : Except Cause Unit :=
  if Keyword.isReserved word then .error (.reservedWord word segment)
  else if Operand.isIdentifier word then .ok ()
  else .error (.malformedOutput segment)

/-- A joined piece must be a quoted text or a variable. -/
def checkPiece (segment piece : Text) : Except Cause Unit :=
  if Operand.isQuotedText piece then .ok () else checkVariable piece segment

/-- A segment must be a variable, a quoted text if it is `alone`, or
joined pieces. -/
def checkSegment (alone : Bool) (segment : Text) : Except Cause Unit :=
  let pieces := Text.splitTrimmed '+' segment
  if 1 < pieces.length then pieces.forM (checkPiece segment)
  else if Operand.isQuotedText segment then
    if alone then .ok () else .error (.stringNotAlone segment)
  else checkVariable segment segment

/-- The text in the parentheses of `kiara.salida` must be a list of
segments. -/
def check (expression : Text) : Except Cause Unit :=
  let segments := Text.splitTrimmed ',' expression
  segments.forM (checkSegment (segments.length = 1))

end Aula.Output
