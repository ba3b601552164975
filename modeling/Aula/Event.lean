/-
Events: what the checker notes down while it works, in the order in
which it happens. A log is a list of events; each is shown as one line
with a level in front.
-/
import Aula.Token.Basic

namespace Aula

/-- How much detail a line of the log belongs to. -/
inductive Level where
  | trace
  | debug
deriving DecidableEq, Repr

/-- The name of a level in the log. -/
def Level.name : Level → String
  | .trace => "TRACE"
  | .debug => "DEBUG"

/-- Something the checker notes down. -/
inductive Event where
  /-- A token was read. -/
  | read (token : Token)
  /-- A block was entered; the depth counts it. -/
  | entered (offset depth : Nat)
  /-- A block was left; the depth no longer counts it. -/
  | left (offset depth : Nat)
  /-- A statement that is one token was accepted. -/
  | accepted (kind : Kind) (lexeme : Text)
  /-- The text of an output was accepted. -/
  | outputChecked (expression : Text)
  /-- The text of a condition was accepted. -/
  | conditionChecked (condition : Text)
  /-- The text of a loop header was accepted. -/
  | loopChecked (header : Text)
  /-- A program of so many tokens was accepted. -/
  | validated (tokens : Nat)
deriving DecidableEq, Repr

namespace Event

open Text (decimal)

/-- The level of an event: single tokens are traced. -/
def level : Event → Level
  | read _ => .trace
  | accepted _ _ => .trace
  | _ => .debug

/-- What happened. -/
def message : Event → Text
  | read t => "token " ++ t.trace
  | entered offset depth =>
    "entering block at " ++ decimal offset ++ " (depth " ++ decimal depth ++ ")"
  | left offset depth =>
    "leaving block at " ++ decimal offset ++ " (depth " ++ decimal depth ++ ")"
  | accepted kind lexeme => kind.name ++ " accepted: " ++ lexeme
  | outputChecked expression => "output validated: " ++ expression
  | conditionChecked condition => "condition validated: " ++ condition
  | loopChecked header => "loop header validated: " ++ header
  | validated tokens => "validated " ++ decimal tokens ++ " tokens"

/-- An event as a line of the log. -/
def line (e : Event) : Text := e.level.name ++ " " ++ e.message

end Event

end Aula
