/-
Streams of tokens. A stream always ends with an end-of-input token, and
the type says so: the last token is a field of its own, with the proof
of its kind. The tokens before it are free, so an end of input may also
stand among them; a walk stops at the first one it meets.
-/
import Aula.Token.Basic

namespace Aula

/-- Tokens followed by an end of input. -/
structure Stream where
  /-- The tokens before the last one. -/
  body : List Token
  /-- The end of the input. -/
  final : Token
  final_kind : final.kind = .endOfInput
deriving DecidableEq, Repr

namespace Stream

-- ============================================================= building

/-- The stream of the given tokens. The end of an input of the given
size is added unless they end with an end of input already. -/
def ofTokens (tokens : List Token) (size : Nat) : Stream :=
  match tokens.getLast? with
  | none => ⟨tokens, .endOfInput size, rfl⟩
  | some t =>
    if h : t.kind = .endOfInput then ⟨tokens.dropLast, t, h⟩
    else ⟨tokens, .endOfInput size, rfl⟩

/-- All tokens, the last one included. -/
def toList (s : Stream) : List Token := s.body ++ [s.final]

/-- The number of tokens, the last one included. -/
def size (s : Stream) : Nat := s.toList.length

-- ============================================================== walking

/-- The token in front. -/
def head (s : Stream) : Token := s.body.headD s.final

/-- The stream behind its first token. An end of input stays in front:
nothing moves past it. -/
def advance (s : Stream) : Stream :=
  if s.head.kind = .endOfInput then s else { s with body := s.body.tail }

/-- Only the last token is in front of an exhausted stream. -/
theorem head_of_body_nil {s : Stream} (h : s.body = []) :
    s.head.kind = .endOfInput := by
  simp [head, h, s.final_kind]

/-- Moving past a token that is not the end of input leaves one token
less. -/
theorem body_length_advance {s : Stream} (h : s.head.kind ≠ .endOfInput) :
    s.advance.body.length + 1 = s.body.length := by
  cases hb : s.body with
  | nil => exact absurd (head_of_body_nil hb) h
  | cons t ts => simp [advance, h, hb]

/-- Moving on never adds a token. -/
theorem body_length_advance_le (s : Stream) :
    s.advance.body.length ≤ s.body.length := by
  unfold advance
  split <;> simp

end Stream

end Aula
