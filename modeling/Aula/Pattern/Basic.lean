/-
Patterns: the shapes that a piece of program text may have, as data,
and the reader that finds how much of the front of a text has a shape.

# Reading without second thoughts

`scan` decides at each step by what stands in front and never goes
back: of two alternatives it takes the first that fits, a repetition
goes on as long as it can, and a later failure does not reopen either.
That is the right reading for shapes whose alternatives begin with
different characters and whose repetitions cannot swallow what must
follow them, and every shape of this library is written so. The set of
words a pattern stands for is defined on its own in
`Aula.Pattern.Language`.

# Excepted words

`except p words` has the shape `p` but is none of `words`: a variable
name is an identifier that is not a reserved word. The whole word that
`p` reads is compared, so a name may well begin with a reserved word.
-/
import Aula.Text.CharClass

namespace Aula

/-- The shape of a piece of text. -/
inductive Pattern where
  /-- Exactly this text. -/
  | text (word : Text)
  /-- One character of a class. -/
  | one (kind : CharClass)
  /-- One shape, then another. -/
  | seq (first second : Pattern)
  /-- One shape or, failing that, another. -/
  | alt (first second : Pattern)
  /-- One shape any number of times. -/
  | many (shape : Pattern)
  /-- A shape, but none of the given words. -/
  | except (shape : Pattern) (words : List Text)
deriving DecidableEq, Repr

namespace Pattern

-- ============================================================ combining

/-- A string literal is the pattern of exactly that text. -/
instance : Coe String Pattern := ⟨fun s => .text s.toList⟩

/-- Reading `p ++ q` is reading `p` and then `q`. -/
instance : Append Pattern := ⟨.seq⟩

/-- Reading `p ||| q` is reading `p` or, failing that, `q`. -/
instance : OrOp Pattern := ⟨.alt⟩

/-- A shape that may be left out. -/
def opt (p : Pattern) : Pattern := p ||| .text []

/-- A shape at least once. -/
def oneOrMore (p : Pattern) : Pattern := p ++ p.many

-- ============================================================== reading

/-- The length of the longest run of pieces in front of a text, each as
long as `read` says. `skip` characters belong to a piece read earlier;
an empty piece ends the run. -/
def run (read : Text → Option Nat) : (skip : Nat) → Text → Nat
  | _, [] => 0
  | skip + 1, _ :: s => run read skip s + 1
  | 0, c :: s =>
    match read (c :: s) with
    | some (n + 1) => run read n s + 1
    | _ => 0

/-- The number of characters in front of a text that have the shape. -/
def scan : Pattern → Text → Option Nat
  | .text word, s => if word.isPrefixOf s then some word.length else none
  | .one _, [] => none
  | .one kind, c :: _ => if kind.has c then some 1 else none
  | .seq p q, s =>
    match p.scan s with
    | none => none
    | some n => (q.scan (s.drop n)).map (n + ·)
  | .alt p q, s =>
    match p.scan s with
    | none => q.scan s
    | some n => some n
  | .many p, s => some (run p.scan 0 s)
  | .except p words, s => (p.scan s).filter fun n => s.take n ∉ words

/-- Whether a whole text has the shape. -/
def covers (p : Pattern) (s : Text) : Bool := p.scan s = some s.length

/-- The words that the given shapes read one after the other, if
together they read the whole text. -/
def cut? : List Pattern → Text → Option (List Text)
  | [], [] => some []
  | [], _ :: _ => none
  | p :: ps, s =>
    match p.scan s with
    | none => none
    | some n => (cut? ps (s.drop n)).map (s.take n :: ·)

end Pattern

end Aula
