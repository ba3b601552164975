/-
The balance of braces over a whole stream: no closing brace without an
open block, and no block left open at the end. The count looks at
nothing but braces, and it also sees tokens that a walk never reaches.
-/
import Aula.Fault
import Aula.Token.Stream

namespace Aula.Balance

/-- The number of blocks open behind the given tokens, when `depth` are
open before them, or the closing brace that is one too many. -/
def openBlocks (depth : Nat) : List Token → Except Fault Nat
  | [] => .ok depth
  | t :: ts =>
    match t.kind with
    | .openBrace => openBlocks (depth + 1) ts
    | .closeBrace =>
      match depth with
      | 0 => .error ⟨.strayCloseBrace, t.offset⟩
      | depth + 1 => openBlocks depth ts
    | _ => openBlocks depth ts

/-- The braces of a stream must pair up, whatever stands between
them. -/
def check (tokens : Stream) : Except Fault Unit :=
  match openBlocks 0 tokens.toList with
  | .error f => .error f
  | .ok 0 => .ok ()
  | .ok depth => .error ⟨.unclosedBlock depth, tokens.final.offset⟩

end Aula.Balance
