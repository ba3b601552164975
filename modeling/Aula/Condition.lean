/-
Conditions: the text in the parentheses of `Si`. It is cut into parts,
operators and the operands between them, and the parts have to
alternate, beginning and ending with an operand. A condition of one
part is a variable.

# Cutting

`cut` gives the text before the first operator and each operator with
the text behind it, so operands and operators alternate by
construction. An operator inside double quotes is ordinary text.
`parts` drops the blank operands, which is how two operators in a row
or an operator at either end come to break the alternation.
-/
import Aula.Operand
import Aula.Operator

namespace Aula.Condition

/-- A part of a condition. -/
inductive Part where
  | operand (text : Text)
  | operator (op : Operator)
deriving DecidableEq, Repr

/-- A part as it is written. -/
def Part.text : Part → Text
  | .operand s => s
  | .operator o => o.symbol

-- ============================================================== cutting

/-- The text before the first operator outside quotes, and each such
operator with the text behind it. `quoted` tells whether the text
begins inside quotes. -/
def cut (quoted : Bool) (s : Text) : Text × List (Operator × Text) :=
  match s with
  | [] => ([], [])
  | c :: s =>
    if c = '"' then
      let (head, tail) := cut (!quoted) s
      (c :: head, tail)
    else if quoted then
      let (head, tail) := cut quoted s
      (c :: head, tail)
    else
      match Operator.read? (c :: s) with
      | none =>
        let (head, tail) := cut quoted s
        (c :: head, tail)
      | some o =>
        let (head, tail) := cut false (s.drop (o.symbol.length - 1))
        ([], (o, head) :: tail)
termination_by s.length
decreasing_by
  all_goals simp only [List.length_cons, List.length_drop]; omega

/-- An operand as a part, unless it is blank. -/
def operandPart (s : Text) : List Part :=
  if s.trim = [] then [] else [.operand s.trim]

/-- The parts of a condition, in order: operators, and the operands
between them, trimmed, where they are not blank. -/
def parts (s : Text) : List Part :=
  let (head, tail) := cut false s
  operandPart head ++ tail.flatMap fun (o, s) => .operator o :: operandPart s

-- ============================================================= checking

/-- The parts must alternate, from an operand to an operand. -/
def checkAlternation (condition : Text) : List Part → Except Cause Unit
  | [] => .error (.danglingOperator condition)
  | [p] => Operand.check p.text condition
  | p :: q :: ps =>
    match Operand.check p.text condition with
    | .error e => .error e
    | .ok () =>
      match q with
      | .operand s => .error (.invalidOperator s condition)
      | .operator _ => checkAlternation condition ps

/-- The text in the parentheses of `Si` must be a condition. -/
def check (condition : Text) : Except Cause Unit :=
  match parts condition with
  | [] => .error .emptyCondition
  | [p] => Operand.checkIdentifier p.text condition
  | ps => checkAlternation condition ps

end Aula.Condition
