/-
Loop headers: the text in the parentheses of `para`. It has three
clauses between semicolons: the first declares the loop's variable with
a whole number, the second compares it, the third steps it.

Each header has a scope of its own, which the first clause fills and
the other two consult; nothing outside the header is visible in it.
-/
import Aula.Condition
import Aula.Text.Split

namespace Aula.Loop

-- ================================================================ scope

/-- The variables that a header declares, the latest first. -/
structure Scope where
  entries : List (Text × Kind) := []
deriving DecidableEq, Repr

namespace Scope

/-- The scope with one more variable, which hides an earlier one of its
name. -/
def declare (name : Text) (kind : Kind) (s : Scope) : Scope :=
  { entries := (name, kind) :: s.entries }

/-- The kind that a variable was declared with. -/
def lookup? (name : Text) (s : Scope) : Option Kind := s.entries.lookup name

/-- Whether a variable is declared. -/
def contains (name : Text) (s : Scope) : Bool := (s.lookup? name).isSome

/-- The name must be declared. -/
def check (name : Text) (s : Scope) : Except Cause Unit :=
  if s.contains name then .ok () else .error (.undeclaredLoopVariable name)

end Scope

-- ============================================================== clauses

open Shape in
/-- The shapes of the first clause: a keyword, a gap, a name, and the
first value. -/
def initShapes : List Pattern :=
  [identifier, gap, identifier, blanks ++ "=" ++ blanks ++ integer]

open Shape in
/-- The shapes of the third clause: a name, and how it is stepped. -/
def updateShapes : List Pattern :=
  [identifier,
   blanks ++ ("++" ||| "--" ||| .one .arithmetic ++ "=" ++ blanks ++ integer)]

/-- The first clause must declare a whole number; it makes the scope of
the header. -/
def checkInit (clause : Text) : Except Cause Scope :=
  match Pattern.cut? initShapes clause with
  | some [keyword, _, name, _] =>
    if Keyword.declares? keyword = some .intDecl then
      if Keyword.isReserved name then .error (.reservedWord name clause)
      else .ok (Scope.declare name .intDecl {})
    else .error (.invalidLoopInit clause)
  | _ => .error (.invalidLoopInit clause)

/-- An operand of the second clause must be a whole number or a variable
of the header. -/
def checkOperand (clause : Text) (scope : Scope) (operand : Text) :
    Except Cause Unit :=
  if Operand.isInteger operand then .ok ()
  else do
    Operand.checkIdentifier operand clause
    scope.check operand

/-- The second clause must be one comparison. -/
def checkCondition (clause : Text) (scope : Scope) : Except Cause Unit :=
  match Condition.parts clause with
  | [left, .operator o, right] =>
    if o.isRelational then do
      checkOperand clause scope left.text
      checkOperand clause scope right.text
    else .error (.invalidOperator o.symbol clause)
  | [_, .operand s, _] => .error (.invalidOperator s clause)
  | _ => .error (.invalidLoopCondition clause)

/-- The third clause must step a variable of the header. -/
def checkUpdate (clause : Text) (scope : Scope) : Except Cause Unit :=
  match Pattern.cut? updateShapes clause with
  | some (name :: _) =>
    if Keyword.isReserved name then .error (.reservedWord name clause)
    else scope.check name
  | _ => .error (.invalidLoopUpdate clause)

/-- The text in the parentheses of `para` must be a loop header. -/
def check (header : Text) : Except Cause Unit :=
  match Text.splitTrimmed ';' header with
  | [init, condition, update] => do
    let scope ← checkInit init
    checkCondition condition scope
    checkUpdate update scope
  | clauses => .error (.loopClauseCount clauses.length)

end Aula.Loop
