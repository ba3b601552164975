/-
The kinds of token. A token is a whole statement, the header of a
statement that owns a block, a brace, or a comment; the end of the
input is a kind of its own, so that a walk over tokens always has one
in front of it.
-/
namespace Aula

/-- The kinds of token. -/
inductive Kind where
  /-- Opens a program: `main()`. -/
  | main
  | openBrace
  | closeBrace
  /-- Declares a whole number: `ent`. -/
  | intDecl
  /-- Declares a number: `flot`. -/
  | floatDecl
  /-- Declares a string: `cad`. -/
  | stringDecl
  /-- Declares a truth value: `sn`. -/
  | boolDecl
  /-- Declares a variable of no fixed type: `let`. -/
  | genericDecl
  /-- Declares a list: `list`. -/
  | listDecl
  | assignment
  /-- Reads a variable: `kiara.entrada`. -/
  | input
  /-- Writes values: `kiara.salida`. -/
  | output
  /-- Makes a block depend on a condition: `Si`. -/
  | condition
  /-- Opens the block taken when the condition fails: `No`. -/
  | otherwise
  /-- Repeats a block: `para`. -/
  | loop
  | comment
  | endOfInput
deriving DecidableEq, Repr

namespace Kind

/-- Every kind. -/
def all : List Kind :=
  [.main, .openBrace, .closeBrace, .intDecl, .floatDecl, .stringDecl,
   .boolDecl, .genericDecl, .listDecl, .assignment, .input, .output,
   .condition, .otherwise, .loop, .comment, .endOfInput]

theorem mem_all (k : Kind) : k ∈ all := by
  cases k <;> decide

/-- The name of a kind in messages and listings. -/
def name : Kind → String
  | .main => "MainMethod"
  | .openBrace => "OpenBrace"
  | .closeBrace => "CloseBrace"
  | .intDecl => "DeclInt"
  | .floatDecl => "DeclFloat"
  | .stringDecl => "DeclString"
  | .boolDecl => "DeclBool"
  | .genericDecl => "DeclGeneric"
  | .listDecl => "DeclList"
  | .assignment => "Assignment"
  | .input => "Input"
  | .output => "Output"
  | .condition => "If"
  | .otherwise => "Else"
  | .loop => "ForLoop"
  | .comment => "Comment"
  | .endOfInput => "EndOfInput"

/-- The kind with a given name. -/
def ofName? (s : String) : Option Kind := all.find? (·.name = s)

/-- A name belongs to one kind. -/
theorem ofName?_name (k : Kind) : ofName? k.name = some k := by
  cases k <;> decide

end Kind

end Aula
