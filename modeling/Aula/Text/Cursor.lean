/-
A cursor into a source text: a byte offset that moves forward over it.
The cursor moves freely; what stands at it can be read only where a
character begins or the text ends.
-/
import Aula.Text.Basic

namespace Aula

/-- A byte offset into a source. -/
structure Cursor where
  source : Text
  offset : Nat := 0
deriving DecidableEq, Repr

namespace Cursor

/-- The cursor `n` bytes further on. -/
def advance (n : Nat) (c : Cursor) : Cursor := { c with offset := c.offset + n }

/-- Whether the cursor has reached the end of the source or passed
it. -/
def atEnd (c : Cursor) : Bool := c.source.byteSize ≤ c.offset

/-- The source from the cursor on; there is none past the end and none
inside a character. -/
def rest? (c : Cursor) : Option Text := Text.fromByte? c.offset c.source

end Cursor

end Aula
