/-
What can be wrong with a program. A cause says which rule is broken and
carries the text that breaks it; a fault is a cause at an offset of the
source. The wording of messages and tips lives here and nowhere else.
-/
import Aula.Text.Quoted
import Aula.Token.Kind

namespace Aula

/-- The rule that a program breaks. -/
inductive Cause where
  /-- Nothing that the language knows begins at the offset. -/
  | unrecognisedInput (offset : Nat) (snippet : Text)
  /-- Another token had to come here. -/
  | unexpectedToken (expected : Text) (found : Kind) (lexeme : Text)
  /-- A token of this kind begins no statement. -/
  | unexpectedStatement (kind : Kind) (lexeme : Text)
  /-- The input ends inside so many blocks. -/
  | unclosedBlock (depth : Nat)
  /-- A closing brace stands outside every block. -/
  | strayCloseBrace
  /-- A header has no text in parentheses. -/
  | missingParentheses (lexeme : Text)
  /-- A reserved word is used as a variable. -/
  | reservedWord (word context : Text)
  | invalidOperand (operand context : Text)
  | invalidOperator (operator context : Text)
  | emptyCondition
  /-- The last operator of a condition has nothing on its right. -/
  | danglingOperator (condition : Text)
  | malformedOutput (segment : Text)
  /-- A string is listed among other outputs. -/
  | stringNotAlone (segment : Text)
  /-- A loop header has not three clauses but so many. -/
  | loopClauseCount (found : Nat)
  | invalidLoopInit (clause : Text)
  | invalidLoopCondition (clause : Text)
  | invalidLoopUpdate (clause : Text)
  | undeclaredLoopVariable (name : Text)
deriving DecidableEq, Repr

/-- The stage of checking that finds a fault. -/
inductive Stage where
  | lexical
  | syntactic
deriving DecidableEq, Repr

/-- The name of a stage in messages. -/
def Stage.name : Stage → String
  | .lexical => "LexicalError"
  | .syntactic => "SyntaxError"

namespace Cause

open Text (quoted decimal)

/-- The stage that finds the cause. -/
def stage : Cause → Stage
  | unrecognisedInput _ _ => .lexical
  | _ => .syntactic

/-- The name of a cause in reports. -/
def name : Cause → String
  | unrecognisedInput _ _ => "UnrecognisedInput"
  | unexpectedToken _ _ _ => "UnexpectedToken"
  | unexpectedStatement _ _ => "UnexpectedStatement"
  | unclosedBlock _ => "UnclosedBlock"
  | strayCloseBrace => "StrayCloseBrace"
  | missingParentheses _ => "MissingParentheses"
  | reservedWord _ _ => "ReservedWord"
  | invalidOperand _ _ => "InvalidOperand"
  | invalidOperator _ _ => "InvalidOperator"
  | emptyCondition => "EmptyCondition"
  | danglingOperator _ => "DanglingOperator"
  | malformedOutput _ => "MalformedOutput"
  | stringNotAlone _ => "StringNotAlone"
  | loopClauseCount _ => "LoopClauseCount"
  | invalidLoopInit _ => "InvalidLoopInit"
  | invalidLoopCondition _ => "InvalidLoopCondition"
  | invalidLoopUpdate _ => "InvalidLoopUpdate"
  | undeclaredLoopVariable _ => "UndeclaredLoopVariable"

/-- What is wrong. Text of the program is quoted, except for what was
expected, which is the checker's own wording. -/
def message : Cause → Text
  | unrecognisedInput offset snippet =>
    "no pattern matches at offset " ++ decimal offset ++ ": " ++ quoted snippet
  | unexpectedToken expected found lexeme =>
    "expected " ++ expected ++ ", found " ++ found.name ++ " " ++ quoted lexeme
  | unexpectedStatement kind lexeme =>
    "unexpected token " ++ kind.name ++ " in " ++ quoted lexeme
  | unclosedBlock depth =>
    "braces are not balanced: " ++ decimal depth ++ " block(s) left open"
  | strayCloseBrace =>
    "braces are not balanced: closing brace without a matching opening brace"
  | missingParentheses lexeme =>
    "could not extract the parenthesised text from " ++ quoted lexeme
  | reservedWord word context =>
    "reserved word " ++ quoted word ++ " cannot be used as an operand in "
      ++ quoted context
  | invalidOperand operand context =>
    "invalid operand " ++ quoted operand ++ " in " ++ quoted context
  | invalidOperator operator context =>
    "invalid operator " ++ quoted operator ++ " in " ++ quoted context
  | emptyCondition => "condition is empty"
  | danglingOperator condition =>
    "condition must begin and end with a valid operand: " ++ quoted condition
  | malformedOutput segment => "malformed output segment " ++ quoted segment
  | stringNotAlone segment =>
    "string literal " ++ quoted segment
      ++ " cannot be combined with other output segments using ','"
  | loopClauseCount found =>
    "loop header must have exactly three clauses separated by ';', found "
      ++ decimal found
  | invalidLoopInit clause => "invalid loop initialisation " ++ quoted clause
  | invalidLoopCondition clause => "invalid loop condition " ++ quoted clause
  | invalidLoopUpdate clause => "invalid loop update " ++ quoted clause
  | undeclaredLoopVariable name =>
    "variable " ++ quoted name ++ " is not declared in the loop header"

/-- What to do about it, where there is something to say. -/
def tip? : Cause → Option Text
  | unrecognisedInput _ _ => some
    ("Check for a missing `;`, a misspelt keyword "
      ++ "or a value that does not fit the declared type")
  | unexpectedToken expected _ _ => some ("Expected " ++ expected ++ " here")
  | unexpectedStatement _ _ => some
    "Blocks may only follow `main()`, `Si`, `No` or `para`"
  | unclosedBlock depth => some
    ("Add " ++ decimal depth ++ " closing brace(s) `\x7d`")
  | strayCloseBrace => some "Remove the extra `\x7d`"
  | missingParentheses _ => none
  | reservedWord word _ => some
    ("`" ++ word ++ "` is a reserved word, rename the variable")
  | invalidOperand _ _ => some
    "Operands must be identifiers, integers or quoted strings"
  | invalidOperator _ _ => some "Use one of == != < > <= >= && ||"
  | emptyCondition => some "Write a condition inside the parentheses"
  | danglingOperator _ => some "Every operator needs an operand on both sides"
  | malformedOutput _ => some
    "Output identifiers separated by `,` or join strings with `+`"
  | stringNotAlone _ => some "Join text and values with `+` instead of `,`"
  | loopClauseCount _ => some
    "A loop header looks like `para (ent i = 0; i < 10; i++)`"
  | invalidLoopInit _ => some "Initialise the loop with `ent <name> = <integer>`"
  | invalidLoopCondition _ => some
    "Compare the loop variable with a relational operator"
  | invalidLoopUpdate _ => some
    "Update the loop variable with `++`, `--` or `<op>= <integer>`"
  | undeclaredLoopVariable name => some
    ("Declare `" ++ name ++ "` in the loop initialisation")

end Cause

/-- A cause at a byte offset of the source. -/
structure Fault where
  cause : Cause
  position : Nat
deriving DecidableEq, Repr

namespace Fault

/-- The stage that finds the fault. -/
def stage (f : Fault) : Stage := f.cause.stage

/-- The fault in one line: the stage and what is wrong. -/
def summary (f : Fault) : Text := f.stage.name ++ ": " ++ f.cause.message

end Fault

end Aula
