/-
The rules of the tokenizer: a kind of token and the shape it is read
by. Rules are tried in the order of the table and the first that fits
is taken. One rule reads blanks and yields no token.

The shape of a header (`Si`, `para`, `kiara.salida`) takes the text in
its parentheses loosely; the meaning of that text is checked when the
statement is.
-/
import Aula.Shape
import Aula.Text.WordCharacter

namespace Aula

/-- How one kind of token is read. -/
structure Rule where
  /-- The kind of token, or none if what is read is skipped. -/
  kind : Option Kind
  shape : Pattern
  /-- Whether the token must not be followed by a word character. -/
  wholeWord : Bool := false
deriving DecidableEq, Repr

/-- Whether a text begins with a word character. -/
def Text.continuesWord : Text → Bool
  | [] => false
  | c :: _ => CharClass.wordCharacter.has c

namespace Rule

open Shape
open Pattern (one many)

/-- The number of characters that the rule reads in front of a text. -/
def scan (r : Rule) (s : Text) : Option Nat :=
  (r.shape.scan s).filter fun n => !(r.wholeWord && Text.continuesWord (s.drop n))

/-- The number of bytes that the rule reads in front of a text. -/
def matchSize? (r : Rule) (s : Text) : Option Nat :=
  (r.scan s).map fun n => Text.byteSize (s.take n)

-- ============================================================ the table

/-- The rules of the language. -/
def table : List Rule :=
  [{ kind := some .main, shape := "main" ++ blanks ++ "(" ++ blanks ++ ")" },
   { kind := some .openBrace, shape := "\x7b" },
   { kind := some .closeBrace, shape := "\x7d" },
   { kind := some .intDecl, shape := declaration "ent" (chain integer .arithmetic) },
   { kind := some .floatDecl, shape := declaration "flot" (chain number .arithmetic) },
   { kind := some .stringDecl, shape := declaration "cad" (chain string (.anyOf "+")) },
   { kind := some .boolDecl, shape := declaration "sn" (identifier ++ blanks) },
   { kind := some .genericDecl, shape := declaration "let" anyValue },
   { kind := some .listDecl, shape := listDeclaration },
   { kind := some .input
     shape := "kiara.entrada" ++ blanks ++ "(" ++ blanks ++ name ++ blanks ++ ")"
       ++ blanks ++ ";" },
   { kind := some .output
     shape := "kiara.salida" ++ blanks ++ parenthesized ++ blanks ++ ";" },
   { kind := some .condition, shape := "Si" ++ blanks ++ parenthesized },
   { kind := some .otherwise, shape := "No", wholeWord := true },
   { kind := some .loop, shape := "para" ++ blanks ++ flatParenthesized },
   { kind := some .assignment, shape := assignment },
   { kind := some .comment, shape := "~" ++ many (one (.noneOf "~")) ++ "~" },
   { kind := none, shape := gap }]

/-- The first of the given rules that fits the front of a text: the kind
it yields and the number of characters it reads. -/
def first? (rules : List Rule) (s : Text) : Option (Option Kind × Nat) :=
  rules.findSome? fun r => (r.scan s).map (r.kind, ·)

end Rule

end Aula
