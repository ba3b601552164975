/-
Programs: `main()` and one block. Checking a program reads its tokens,
sees that its braces balance over the whole stream, and then walks it
from the front. The first violation ends the check.
-/
import Aula.Balance
import Aula.Scan
import Aula.Walker.Run

namespace Aula.Program

-- ============================================================== parsing

/-- The end of a walk over a program: nothing may be left ahead and no
block open. -/
def finish (tokens : Stream) (w : Walker) : Except Fault Unit × Walker :=
  if w.hasTokens then
    (.error (w.unexpected "end of input after the main block"), w)
  else if w.depth ≠ 0 then
    (.error (w.fault (.unclosedBlock w.depth)), w)
  else
    (.ok (), w.note (.validated tokens.size))

/-- Walks a stream as a program. -/
def walk (tokens : Stream) : Except Fault Unit × Walker :=
  let start : Walker := { ahead := tokens, table := Table.language }
  match Balance.check tokens with
  | .error f => (.error f, start)
  | .ok () =>
    match start.expectOr .main (start.unexpected "main()") with
    | .error f => (.error f, start)
    | .ok (_, w) =>
      match w.run [.handle .block] with
      | (.error f, w) => (.error f, w)
      | (.ok (), w) => finish tokens w

/-- A stream must be a program. -/
def parse (tokens : Stream) : Except Fault Unit := (walk tokens).1

-- ============================================================= checking

/-- A source must be a program; its tokens are the answer. -/
def check (source : Text) : Except Fault Stream := do
  let tokens ← tokenize source
  parse tokens
  return tokens

/-- The events of a check, in order: the tokens that were read, also
before a fault, and what was noted on the walk over them. -/
def log (source : Text) : List Event :=
  (Scan.ofSource source).tokens.map .read
    ++ match tokenize source with
      | .error _ => []
      | .ok tokens => (walk tokens).2.log.toList

end Aula.Program
