/-
Scanning: cutting a source into tokens. At each offset the rules are
tried in order; what the first fitting rule reads becomes a token, or
is skipped if the rule yields none. Scanning stops at the end of the
source or where no rule reads anything, and what was read up to there
is kept.
-/
import Aula.Fault
import Aula.Rule
import Aula.Token.Stream

namespace Aula

/-- The tokens read from a source, the offset where reading stopped and
the text that is left there. -/
structure Scan where
  tokens : List Token
  offset : Nat
  rest : Text
deriving DecidableEq, Repr

namespace Scan

/-- The scan with one more token in front, if there is one. -/
def push (token : Option Token) (s : Scan) : Scan :=
  { s with tokens := token.toList ++ s.tokens }

/-- Reads tokens from a text that stands at an offset of the source.
`choose` says what stands in front of a text: the kind of token, if it
is not skipped, and its length. -/
def read (choose : Text → Option (Option Kind × Nat)) (offset : Nat) (s : Text) :
    Scan :=
  match s with
  | [] => ⟨[], offset, []⟩
  | c :: s =>
    match choose (c :: s) with
    | some (kind, n + 1) =>
      let lexeme : Text := c :: s.take n
      (read choose (offset + lexeme.byteSize) (s.drop n)).push
        (kind.map (Token.reading · lexeme offset))
    | _ => ⟨[], offset, c :: s⟩
termination_by s.length
decreasing_by simp only [List.length_cons, List.length_drop]; omega

/-- How many characters of unrecognised text a message shows. -/
def snippetLength : Nat := 20

/-- The fault at the place where a scan stopped early. -/
def fault (s : Scan) : Fault :=
  ⟨.unrecognisedInput s.offset (s.rest.take snippetLength), s.offset⟩

/-- The stream of a scan that reached the end, or the fault where it
stopped. -/
def stream (s : Scan) : Except Fault Stream :=
  if s.rest = [] then .ok (Stream.ofTokens s.tokens s.offset)
  else .error s.fault

/-- The scan of a source by the first fitting rule of a list. -/
def byRules (rules : List Rule) (source : Text) : Scan :=
  read (Rule.first? rules) 0 source

/-- The scan of a source by the rules of the language. -/
def ofSource (source : Text) : Scan := byRules Rule.table source

end Scan

/-- The tokens of a source, or the fault where it stops being
readable. -/
def tokenize (source : Text) : Except Fault Stream :=
  (Scan.ofSource source).stream

end Aula
