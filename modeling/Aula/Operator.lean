/-
The operators of conditions: six that compare and two that connect.
An operator of one character may begin one of two, so the list that
readers try has the longer ones first.
-/
import Aula.Text.Basic

namespace Aula

/-- The operators of conditions. -/
inductive Operator where
  | equal
  | notEqual
  | atMost
  | atLeast
  | and
  | or
  | less
  | greater
deriving DecidableEq, Repr

namespace Operator

/-- How an operator is written. -/
def symbol : Operator → Text
  | equal => "=="
  | notEqual => "!="
  | atMost => "<="
  | atLeast => ">="
  | and => "&&"
  | or => "||"
  | less => "<"
  | greater => ">"

/-- Every operator, those of two characters first. -/
def all : List Operator :=
  [equal, notEqual, atMost, atLeast, and, or, less, greater]

/-- The operators that compare. -/
def relational : List Operator :=
  [equal, notEqual, atMost, atLeast, less, greater]

/-- The operators that connect. -/
def logical : List Operator := [and, or]

theorem mem_all (o : Operator) : o ∈ all := by
  cases o <;> decide

/-- Every operator compares or connects. -/
theorem mem_relational_or_logical (o : Operator) :
    o ∈ relational ∨ o ∈ logical := by
  cases o <;> decide

/-- Whether the operator compares. -/
def isRelational (o : Operator) : Bool := o ∈ relational

theorem symbol_length_pos (o : Operator) : 0 < o.symbol.length := by
  cases o <;> decide

/-- The operator that a text begins with. -/
def read? (s : Text) : Option Operator := all.find? (·.symbol.isPrefixOf s)

/-- The operator that a whole text writes. -/
def ofSymbol? (s : Text) : Option Operator := all.find? (·.symbol = s)

/-- A symbol belongs to one operator. -/
theorem ofSymbol?_symbol (o : Operator) : ofSymbol? o.symbol = some o := by
  cases o <;> decide

end Operator

end Aula
