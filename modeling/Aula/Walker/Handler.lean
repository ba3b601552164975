/-
What handling a statement does. Handling is cut into steps: a step
looks at the token in front, checks and moves past it, and says which
goals are left to do after it. A block, for instance, is entered in one
step, which leaves its body as a goal; the body takes one statement per
step and stays a goal until its closing brace is reached.

A step that fails changes nothing: the walk stays at the token that the
fault is about, inside the blocks that were open there.
-/
import Aula.Loop
import Aula.Output
import Aula.Walker.Basic

namespace Aula

/-- What is left to do on a walk. -/
inductive Goal where
  /-- A statement, handled as the table says. -/
  | statement
  /-- The statement in front, handled in a given way. -/
  | handle (handler : Handler)
  /-- Statements up to a closing brace. -/
  | body
  /-- The block that is taken otherwise, if there is one. -/
  | otherwise
deriving DecidableEq, Repr

namespace Walker

-- ============================================== the text in parentheses

/-- Checks the text in the parentheses of the token in front. -/
def checkHeader (check : Text → Except Cause Unit) (w : Walker) : Except Fault Text :=
  match Text.parenthesized? w.current.lexeme with
  | none => .error (w.fault (.missingParentheses w.current.lexeme))
  | some text =>
    match check text with
    | .error cause => .error (w.fault cause)
    | .ok () => .ok text

-- ================================================================ steps

/-- The first step of handling the statement in front: the goals that
are left, and the walk behind the token. -/
def handle (w : Walker) : Handler → Except Fault (List Goal × Walker)
  | .single => .ok ([], w.advance.note (.accepted w.current.kind w.current.lexeme))
  | .comment => .ok ([], w.advance)
  | .output => do
    let text ← w.checkHeader Output.check
    return ([], w.advance.note (.outputChecked text))
  | .condition => do
    let text ← w.checkHeader Condition.check
    return ([.handle .block, .otherwise], w.advance.note (.conditionChecked text))
  | .loop => do
    let text ← w.checkHeader Loop.check
    return ([.handle .block], w.advance.note (.loopChecked text))
  | .block => do
    let (brace, inside) ← w.expectOr .openBrace (w.unexpected "`\x7b`")
    return ([.body], inside.openBlock.note (.entered brace.offset (w.depth + 1)))

/-- The first step of the statement in front, handled as the table
says. -/
def dispatch (w : Walker) : Except Fault (List Goal × Walker) :=
  match w.table w.current.kind with
  | some handler => w.handle handler
  | none => .error (w.fault (.unexpectedStatement w.current.kind w.current.lexeme))

/-- Leaves the innermost block at the closing brace in front. -/
def leave (w : Walker) : Except Fault Walker := do
  let outside ← w.closeBlock w.position
  return outside.advance.note (.left w.position outside.depth)

/-- One step towards a goal: the goals that are left of it, and the walk
behind the step. -/
def step (w : Walker) : Goal → Except Fault (List Goal × Walker)
  | .statement => w.dispatch
  | .handle handler => w.handle handler
  | .body =>
    match w.current.kind with
    | .closeBrace => do
      let outside ← w.leave
      return ([], outside)
    | .endOfInput => .error (w.fault (.unclosedBlock w.depth))
    | _ => do
      let (goals, next) ← w.dispatch
      return (goals ++ [.body], next)
  | .otherwise =>
    if w.current.kind = .otherwise then .ok ([.handle .block], w.advance)
    else .ok ([], w)

end Walker

end Aula
