/-
The words of the language: the keywords that declare a variable, each
with the kind of declaration it opens, and the reserved words, which no
variable may be named.
-/
import Aula.Token.Basic

namespace Aula.Keyword

/-- The declaration keywords and the kind of statement each one
opens. -/
def declarations : List (Text × Kind) :=
  [("ent", .intDecl), ("flot", .floatDecl), ("cad", .stringDecl),
   ("sn", .boolDecl), ("let", .genericDecl), ("list", .listDecl)]

/-- The kind of declaration that a word opens, if it is a declaration
keyword. -/
def declares? (word : Text) : Option Kind := declarations.lookup word

/-- The words that no variable may be named: the declaration keywords,
the words that open other statements, and the truth values. `main` is
not one of them. -/
def reserved : List Text :=
  declarations.map Prod.fst
    ++ (["para", "Si", "No", "True", "False", "kiara"] : List Text)

/-- Whether a word is reserved. -/
def isReserved (word : Text) : Bool := reserved.contains word

end Aula.Keyword
