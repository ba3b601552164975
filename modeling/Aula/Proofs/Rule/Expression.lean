/-
The table of the language once more, as regular expressions: shapes that
are written for the one who writes programs, where the shapes of the
rules are written for a reader that never goes back.

The two differ where something may be left out. Blanks are allowed on
both sides of an operator, a comma, an initial value. A reader that takes
those in front of an operator cannot give them back when there is none,
so the shape of a rule has each operand take the blanks behind it along.
An expression just has blanks on both sides. It also captures the
identifier that is declared or assigned, and only what was captured in a
match is compared with the reserved words.

# Two readings of an expression

`matchSize?` matches it, in the order of preference of
`Aula.Proofs.Pattern.Preference`. `Spells` tells its words and is silent
about matching. That both come to the same, and to what the rule reads,
is shown in `Aula.Proofs.Rule.Matching`; here the languages are compared
(`table_matches`), which is a matter of algebra.
-/
import Aula.Proofs.Pattern.Algebra
import Aula.Proofs.Pattern.Preference

namespace Aula

open Pattern (Word one many opt cuts language_append language_or language_opt language_many
  language_oneOrMore)
open Shape (blanks gap identifier name digits integer number string truth literal chain)
open Text (Continues)

-- ========================================================= expressions

/-- Whether a word begins or ends between two texts: a word character
stands on one side only. -/
def Text.isBoundary (before after : Text) : Bool :=
  before.getLast?.any CharClass.wordCharacter.has != after.head?.any CharClass.wordCharacter.has

/-- A kind of token and the regular expression for it. -/
structure Expression where
  /-- The kind of token, or none if what is matched is skipped. -/
  kind : Option Kind
  /-- The whole expression, or what stands in front of the identifier
  that it captures. -/
  front : Pattern
  /-- What stands behind the identifier, if one is captured. -/
  back : Option Pattern := none
  /-- Whether the expression asks for a word boundary at its end. -/
  wholeWord : Bool := false

namespace Expression

/-- The parts of the expression whose matches are kept apart. -/
def groups (e : Expression) : List Pattern :=
  match e.back with
  | none => [e.front]
  | some back => [e.front, identifier, back]

/-- The leftmost-first match in front of a text, as the matches of the
groups. -/
def captures? (e : Expression) (t : Text) : Option (List Text) :=
  (cuts e.groups t).find? fun ws =>
    !e.wholeWord || Text.isBoundary ws.flatten (t.drop ws.flatten.length)

/-- The number of bytes that are matched in front of a text. A match that
captures a reserved word is refused; no other match is tried then. -/
def matchSize? (e : Expression) (t : Text) : Option Nat :=
  ((e.captures? t).filter fun ws => !ws[1]?.any Keyword.isReserved).map fun ws =>
    Text.byteSize ws.flatten

-- =========================================================== the table

/-- Operands joined by operators, with blanks around the operators. -/
def arithmetic (literal : Pattern) (operators : CharClass) : Pattern :=
  (literal ||| identifier)
    ++ many (blanks ++ one operators ++ blanks ++ (literal ||| identifier))

/-- A declaration, with the shape of the first value it may have. -/
def declaration (kind : Kind) (keyword value : Pattern) : Expression where
  kind := some kind
  front := keyword ++ gap
  back := some (blanks ++ opt ("=" ++ blanks ++ value) ++ blanks ++ ";")

/-- The length of a list, in brackets that may be empty. -/
def listLength : Pattern := "[" ++ blanks ++ many (one .digit) ++ blanks ++ "]"

/-- The first values of a list, in braces. -/
def listItems : Pattern :=
  "=" ++ blanks ++ "\x7b" ++ blanks
    ++ opt (literal ++ many (blanks ++ "," ++ blanks ++ literal)) ++ blanks ++ "\x7d"

/-- The declaration of a list. -/
def listDeclaration : Expression where
  kind := some .listDecl
  front := "list" ++ gap
  back := some (blanks ++ opt listLength ++ blanks ++ opt listItems ++ blanks ++ ";")

/-- An input statement. -/
def input : Expression where
  kind := some .input
  front := "kiara.entrada" ++ blanks ++ "(" ++ blanks
  back := some (blanks ++ ")" ++ blanks ++ ";")

/-- An assignment, which begins with its name. -/
def assignment : Expression where
  kind := some .assignment
  front := .text []
  back := some (blanks ++ opt (one .arithmetic) ++ "=" ++ blanks
    ++ arithmetic (number ||| string) .arithmetic ++ blanks ++ ";")

/-- The expressions of the language, in the order of the rules. -/
def table : List Expression :=
  [{ kind := some .main, front := "main" ++ blanks ++ "(" ++ blanks ++ ")" },
   { kind := some .openBrace, front := "\x7b" },
   { kind := some .closeBrace, front := "\x7d" },
   declaration .intDecl "ent" (arithmetic integer .arithmetic),
   declaration .floatDecl "flot" (arithmetic number .arithmetic),
   declaration .stringDecl "cad" (arithmetic string (.anyOf "+")),
   declaration .boolDecl "sn" (truth ||| identifier),
   declaration .genericDecl "let" (arithmetic (number ||| string) .arithmetic),
   listDeclaration,
   input,
   { kind := some .output
     front := "kiara.salida" ++ blanks ++ Shape.parenthesized ++ blanks ++ ";" },
   { kind := some .condition, front := "Si" ++ blanks ++ Shape.parenthesized },
   { kind := some .otherwise, front := "No", wholeWord := true },
   { kind := some .loop, front := "para" ++ blanks ++ Shape.flatParenthesized },
   assignment,
   { kind := some .comment, front := "~" ++ many (one (.noneOf "~")) ++ "~" },
   { kind := none, front := gap }]

-- =============================================================== words

/-- The words of an expression, said without matching. Where it captures
an identifier, that is all of the identifier that stands there, and not a
reserved word. -/
inductive Spells (e : Expression) : Text → Prop
  | plain {w : Text} (hback : e.back = none) (hw : Word e.front w) : Spells e w
  | named {back : Pattern} {u x v : Text} (hback : e.back = some back)
      (hu : Word e.front u) (hx : Word identifier x) (hfree : x ∉ Keyword.reserved)
      (hmax : Continues [CharClass.nameRest.compl] v) (hv : Word back v) :
      Spells e (u ++ (x ++ v))

/-- The language of an expression with a name for its identifier. -/
def language (e : Expression) : Language Char :=
  match e.back with
  | none => e.front.language
  | some back => e.front.language * (name.language * back.language)

-- =============================================== rules and expressions

/-- Two runs of blanks are one. -/
theorem blanks_mul_blanks : blanks.language * blanks.language = blanks.language := by
  rw [blanks, language_many, kstar_mul_kstar]

/-- The blanks of a chain can be written in front of its operators. -/
theorem language_chain (literal : Pattern) (operators : CharClass) :
    (chain literal operators).language
      = (arithmetic literal operators).language * blanks.language := by
  simp only [chain, arithmetic, language_append, language_many]
  rw [mul_kstar_separated]
  simp only [mul_assoc]

/-- A truth value is an identifier like any other. -/
theorem truth_add_identifier :
    truth.language + identifier.language = identifier.language := by
  refine add_eq_right_iff_le.2 fun w hw => ?_
  rcases Pattern.word_or_iff.1 hw with h | h <;>
    rw [Pattern.word_text_iff.1 h] <;> exact Rule.word_of_covers (by decide)

/-- A declaration whose value takes the blanks behind it along has the
words of one whose value leaves them behind. -/
theorem language_declaration (kind : Kind) (keyword : Pattern) {value value' : Pattern}
    (hvalue : value.language = value'.language * blanks.language) :
    (Shape.declaration keyword value).language
      = (declaration kind keyword value').language := by
  have hoption := mul_option_mul blanks_mul_blanks
    (Pattern.language "=" * blanks.language * value'.language) (Pattern.language ";")
  simp only [Shape.declaration, declaration, language, language_append, language_opt, hvalue,
    mul_assoc] at hoption ⊢
  rw [hoption]

/-- The length of a list takes the blanks behind it along. -/
theorem language_listLength :
    Pattern.language ("[" ++ blanks ++ opt (digits ++ blanks) ++ "]" ++ blanks)
      = listLength.language * blanks.language := by
  have hoption := mul_option_mul blanks_mul_blanks digits.language
    (Pattern.language "]" * blanks.language)
  have hdigits : digits.language + 1 = (many (one .digit)).language :=
    language_oneOrMore (one .digit)
  simp only [listLength, language_append, language_opt, mul_assoc] at hoption ⊢
  rw [hoption, hdigits]

/-- So do the first values of a list. -/
theorem language_listItems :
    Pattern.language ("=" ++ blanks ++ Shape.items ++ blanks)
      = listItems.language * blanks.language := by
  have hlist := mul_kstar_separated literal.language blanks.language
    (Pattern.language "," * blanks.language)
  have hoption := mul_option_mul blanks_mul_blanks
    (literal ++ many (blanks ++ "," ++ blanks ++ literal)).language
    (Pattern.language "\x7d" * blanks.language)
  simp only [listItems, Shape.items, language_append, language_opt, language_many,
    mul_assoc] at hlist hoption ⊢
  rw [hlist, hoption]

/-- Blanks before, between and behind the parts of a list that may be left
out. -/
theorem language_listDeclaration :
    Shape.listDeclaration.language = listDeclaration.language := by
  have hlength := mul_option_mul blanks_mul_blanks listLength.language
    ((listItems.language * blanks.language + 1) * Pattern.language ";")
  have hitems := mul_option_mul blanks_mul_blanks listItems.language (Pattern.language ";")
  have hlength' := language_listLength
  have hitems' := language_listItems
  simp only [Shape.listDeclaration, listDeclaration, language, language_append, language_opt,
    mul_assoc] at hlength hitems hlength' hitems' ⊢
  rw [hlength', hitems', hlength, hitems]

/-- The value of an assignment takes the blanks behind it along. -/
theorem language_assignment : Shape.assignment.language = assignment.language := by
  simp only [Shape.assignment, assignment, language, Shape.anyValue, language_append,
    language_chain, Pattern.language_nil, mul_assoc, one_mul]

/-- The rules and the expressions correspond, one by one. -/
structure Matches (r : Rule) (e : Expression) : Prop where
  kind : r.kind = e.kind
  wholeWord : r.wholeWord = e.wholeWord
  language : r.shape.language = e.language

/-- Each rule stands for the expression at its place. -/
theorem table_matches : List.Forall₂ Matches Rule.table table := by
  have hchain (kind : Kind) (keyword literal : Pattern) (operators : CharClass) :
      (Shape.declaration keyword (chain literal operators)).language
        = (declaration kind keyword (arithmetic literal operators)).language :=
    language_declaration kind keyword (language_chain literal operators)
  have hbool : (identifier ++ blanks).language
      = (truth ||| identifier).language * blanks.language := by
    rw [language_append, language_or, truth_add_identifier]
  have hinput : Pattern.language ("kiara.entrada" ++ blanks ++ "(" ++ blanks ++ name ++ blanks
      ++ ")" ++ blanks ++ ";") = input.language := by
    simp only [input, language, language_append, mul_assoc]
  simp only [Rule.table, table, List.forall₂_cons, List.forall₂_nil_left_iff, and_true]
  exact ⟨⟨rfl, rfl, rfl⟩, ⟨rfl, rfl, rfl⟩, ⟨rfl, rfl, rfl⟩,
    ⟨rfl, rfl, hchain ..⟩, ⟨rfl, rfl, hchain ..⟩, ⟨rfl, rfl, hchain ..⟩,
    ⟨rfl, rfl, language_declaration _ _ hbool⟩, ⟨rfl, rfl, hchain ..⟩,
    ⟨rfl, rfl, language_listDeclaration⟩, ⟨rfl, rfl, hinput⟩,
    ⟨rfl, rfl, rfl⟩, ⟨rfl, rfl, rfl⟩, ⟨rfl, rfl, rfl⟩, ⟨rfl, rfl, rfl⟩,
    ⟨rfl, rfl, language_assignment⟩, ⟨rfl, rfl, rfl⟩, ⟨rfl, rfl, rfl⟩⟩

end Expression

end Aula
