/-
Tokens: a kind, the text that was read, and where it stood. Spans are
in bytes of the source, and the end is the offset just past the last
byte.
-/
import Aula.Text.Basic
import Aula.Token.Kind

namespace Aula

/-- A stretch of the source, from its first byte to just past its
last. -/
structure Span where
  start : Nat
  stop : Nat
deriving DecidableEq, Repr

/-- One classified piece of a program. -/
structure Token where
  kind : Kind
  lexeme : Text
  span : Span
deriving DecidableEq, Repr

namespace Token

/-- Where the token stands in the source. -/
def offset (t : Token) : Nat := t.span.start

/-- Whether the token is of one of the given kinds. -/
def isOneOf (kinds : List Kind) (t : Token) : Bool := t.kind ∈ kinds

/-- The token of the given kind that reads `lexeme` at `offset`. -/
def reading (kind : Kind) (lexeme : Text) (offset : Nat) : Token :=
  ⟨kind, lexeme, offset, offset + lexeme.byteSize⟩

/-- The end of an input of the given size. -/
def endOfInput (size : Nat) : Token := ⟨.endOfInput, [], size, size⟩

/-- A token as the log shows it: kind, lexeme and offset. -/
def trace (t : Token) : Text :=
  t.kind.name ++ ": " ++ t.lexeme ++ " @ " ++ Text.decimal t.offset

/-- A token as the listing of a program shows it. The end of the input
has neither text nor place there. -/
def listing (t : Token) : Text :=
  if t.kind = .endOfInput then t.kind.name ++ (" ()" : Text) else t.trace

end Token

end Aula
