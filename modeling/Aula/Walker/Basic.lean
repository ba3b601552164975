/-
The state of a walk over a stream of tokens: the tokens ahead, the
number of blocks that are open, the table that says how a statement of
each kind is handled, and the log.

A walk only moves forward and never past an end of input, because
`Stream.advance` does not. Moving, opening and closing a block and
looking at the token in front are all there is; what a statement means
is built on these in `Aula.Walker.Handler`.
-/
import Aula.Event
import Aula.Fault
import Aula.Token.Stream

namespace Aula

/-- The ways to handle a statement. -/
inductive Handler where
  /-- One token, which scanning has checked already. -/
  | single
  /-- One token that means nothing. -/
  | comment
  /-- An output, with the text in its parentheses. -/
  | output
  /-- A condition, the block it guards, and the block otherwise. -/
  | condition
  /-- A loop header and the block it repeats. -/
  | loop
  /-- A block. -/
  | block
deriving DecidableEq, Repr

/-- How the statements of each kind are handled; a kind without handler
begins no statement. -/
abbrev Table := Kind → Option Handler

namespace Table

/-- The table without handlers. -/
def empty : Table := fun _ => none

/-- The table with the handler of one kind set or replaced. -/
def register (kind : Kind) (handler : Handler) (t : Table) : Table :=
  fun k => if k = kind then some handler else t k

/-- The kinds that have a handler. -/
def kinds (t : Table) : List Kind := Kind.all.filter fun k => (t k).isSome

/-- The handlers that the language has: every kind may begin a statement
but `main()`, the braces, `No` and the end of the input. -/
def language : Kind → Option Handler
  | .intDecl | .floatDecl | .stringDecl | .boolDecl | .genericDecl
  | .listDecl | .assignment | .input => some .single
  | .output => some .output
  | .condition => some .condition
  | .loop => some .loop
  | .comment => some .comment
  | .main | .openBrace | .closeBrace | .otherwise | .endOfInput => none

/-- The table with the handlers of the language set or replaced. -/
def withLanguage (t : Table) : Table := fun k => (language k).or (t k)

end Table

/-- The state of a walk. -/
structure Walker where
  /-- The tokens from the one in front on. -/
  ahead : Stream
  /-- The number of open blocks. -/
  depth : Nat := 0
  table : Table := Table.empty
  log : Array Event := #[]

namespace Walker

-- =========================================================== the cursor

/-- The token in front. -/
def current (w : Walker) : Token := w.ahead.head

/-- Where the token in front stands in the source. -/
def position (w : Walker) : Nat := w.current.offset

/-- Whether a token other than the end of input is in front. -/
def hasTokens (w : Walker) : Bool := w.current.kind ≠ .endOfInput

/-- The walk past the token in front; an end of input stays. -/
def advance (w : Walker) : Walker := { w with ahead := w.ahead.advance }

/-- The number of tokens that a walk can still move past, at most. -/
def remaining (w : Walker) : Nat := w.ahead.body.length

theorem remaining_advance {w : Walker} (h : w.current.kind ≠ .endOfInput) :
    w.advance.remaining < w.remaining :=
  Nat.lt_of_succ_le (Nat.le_of_eq (Stream.body_length_advance h))

theorem remaining_advance_le (w : Walker) : w.advance.remaining ≤ w.remaining :=
  Stream.body_length_advance_le w.ahead

-- ========================================================= blocks, log

/-- The walk with one more event in its log. -/
def note (e : Event) (w : Walker) : Walker := { w with log := w.log.push e }

/-- The walk inside one more block. -/
def openBlock (w : Walker) : Walker := { w with depth := w.depth + 1 }

/-- The walk outside its innermost block; `offset` is where that is
closed. -/
def closeBlock (offset : Nat) (w : Walker) : Except Fault Walker :=
  match w.depth with
  | 0 => .error ⟨.strayCloseBrace, offset⟩
  | depth + 1 => .ok { w with depth }

-- ========================================================= expectations

/-- A fault at the token in front. -/
def fault (cause : Cause) (w : Walker) : Fault := ⟨cause, w.position⟩

/-- The fault that the token in front is not what was expected. -/
def unexpected (expected : Text) (w : Walker) : Fault :=
  w.fault (.unexpectedToken expected w.current.kind w.current.lexeme)

/-- Moves past the token in front, which must be of the given kind, or
fails with the given fault. -/
def expectOr (kind : Kind) (f : Fault) (w : Walker) : Except Fault (Token × Walker) :=
  if w.current.kind = kind then .ok (w.current, w.advance) else .error f

/-- Moves past the token in front, which must be of the given kind. -/
def expect (kind : Kind) (w : Walker) : Except Fault (Token × Walker) :=
  w.expectOr kind (w.unexpected kind.name)

end Walker

end Aula
