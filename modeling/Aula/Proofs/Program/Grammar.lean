/-
The grammar of programs, over tokens and without a walk.

  program    ::= `main()` block
  block      ::= `{` statements `}`
  statements ::= statement*
  statement  ::= a declaration, an assignment, an input or a comment
               | an output
               | a condition block [ `No` block ]
               | a loop block

The text in the parentheses of an output, a condition or a loop must be
accepted by the check of its kind. Every other token counts by its kind
alone.

# What a derivation implies

Its braces pair up (`Derives.openBlocks_append`), and each `No` in it is
followed by an opening brace (`Derives.brace_after_otherwise`), so a
`No` needs no blank behind it to be read as one.
-/
import Aula.Balance
import Aula.Condition
import Aula.Loop
import Aula.Output

namespace Aula

-- ====================================================== counting braces

namespace Balance

/-- An opening brace opens a block. -/
theorem openBlocks_open {o : Token} (ho : o.kind = .openBrace) (depth : Nat)
    (ts : List Token) :
    openBlocks depth (o :: ts) = openBlocks (depth + 1) ts := by
  simp only [openBlocks, ho]

/-- A closing brace closes the innermost block. -/
theorem openBlocks_close {c : Token} (hc : c.kind = .closeBrace) (depth : Nat)
    (ts : List Token) :
    openBlocks (depth + 1) (c :: ts) = openBlocks depth ts := by
  simp only [openBlocks, hc]

/-- Other tokens do not count. -/
theorem openBlocks_other {t : Token} (ho : t.kind ≠ .openBrace)
    (hc : t.kind ≠ .closeBrace) (depth : Nat) (ts : List Token) :
    openBlocks depth (t :: ts) = openBlocks depth ts := by
  simp only [openBlocks]

end Balance

-- ========================================================== the grammar

/-- The text in the parentheses of the token passes a check. -/
def Token.Accepts (check : Text → Except Cause Unit) (t : Token) : Prop :=
  ∃ text, Text.parenthesized? t.lexeme = some text ∧ check text = .ok ()

/-- The kinds whose tokens are statements by themselves, whatever their
text. -/
def Kind.plain : List Kind :=
  [.intDecl, .floatDecl, .stringDecl, .boolDecl, .genericDecl, .listDecl,
   .assignment, .input, .comment]

/-- The plain kinds are neither braces nor `No`. -/
theorem Kind.plain_ne : ∀ k ∈ plain,
    k ≠ .openBrace ∧ k ≠ .closeBrace ∧ k ≠ .otherwise := by
  decide

/-- What the grammar speaks of. -/
inductive Phrase where
  | program
  | block
  | statements
  | statement
deriving DecidableEq, Repr

/-- The tokens make up a phrase. -/
inductive Derives : Phrase → List Token → Prop where
  | program {m : Token} {b : List Token} (hm : m.kind = .main)
      (hb : Derives .block b) : Derives .program (m :: b)
  | block {o c : Token} {ss : List Token} (ho : o.kind = .openBrace)
      (hs : Derives .statements ss) (hc : c.kind = .closeBrace) :
      Derives .block (o :: (ss ++ [c]))
  | none : Derives .statements []
  | more {s ss : List Token} (hs : Derives .statement s)
      (hss : Derives .statements ss) : Derives .statements (s ++ ss)
  | plain {t : Token} (ht : t.kind ∈ Kind.plain) : Derives .statement [t]
  | output {t : Token} (ht : t.kind = .output) (ha : t.Accepts Output.check) :
      Derives .statement [t]
  | condition {t : Token} {b : List Token} (ht : t.kind = .condition)
      (ha : t.Accepts Condition.check) (hb : Derives .block b) :
      Derives .statement (t :: b)
  | conditionOtherwise {t o : Token} {b d : List Token} (ht : t.kind = .condition)
      (ha : t.Accepts Condition.check) (hb : Derives .block b)
      (ho : o.kind = .otherwise) (hd : Derives .block d) :
      Derives .statement (t :: (b ++ o :: d))
  | loop {t : Token} {b : List Token} (ht : t.kind = .loop)
      (ha : t.Accepts Loop.check) (hb : Derives .block b) :
      Derives .statement (t :: b)

namespace Derives

open Balance (openBlocks openBlocks_open openBlocks_close openBlocks_other)

-- ======================================================== how it begins

/-- A block begins with an opening brace. -/
theorem block_ne_nil {b : List Token} (h : Derives .block b) :
    ∃ o rest, b = o :: rest ∧ o.kind = .openBrace := by
  cases h with
  | block ho hs hc => exact ⟨_, _, rfl, ho⟩

-- ============================================================== balance

/-- The braces of a phrase pair up among themselves. -/
theorem openBlocks_append {p : Phrase} {ts : List Token} (h : Derives p ts)
    (depth : Nat) (rest : List Token) :
    openBlocks depth (ts ++ rest) = openBlocks depth rest := by
  induction h generalizing depth rest with
  | program hm hb ih =>
    rw [List.cons_append, openBlocks_other (by simp [hm]) (by simp [hm]), ih]
  | @block o c ss ho hs hc ih =>
    rw [List.cons_append, openBlocks_open ho, List.append_assoc, ih,
      List.singleton_append, openBlocks_close hc]
  | none => rfl
  | more hs hss ihs ihss => rw [List.append_assoc, ihs, ihss]
  | @plain t ht =>
    obtain ⟨hopen, hclose, -⟩ := Kind.plain_ne t.kind ht
    rw [List.singleton_append, openBlocks_other hopen hclose]
  | output ht ha =>
    rw [List.singleton_append, openBlocks_other (by simp [ht]) (by simp [ht])]
  | condition ht ha hb ih =>
    rw [List.cons_append, openBlocks_other (by simp [ht]) (by simp [ht]), ih]
  | conditionOtherwise ht ha hb ho hd ihb ihd =>
    rw [List.cons_append, openBlocks_other (by simp [ht]) (by simp [ht]),
      List.append_assoc, ihb, List.cons_append,
      openBlocks_other (by simp [ho]) (by simp [ho]), ihd]
  | loop ht ha hb ih =>
    rw [List.cons_append, openBlocks_other (by simp [ht]) (by simp [ht]), ih]

/-- The braces of a program balance. -/
theorem balance {s : Stream} (h : Derives .program s.body) : Balance.check s = .ok () := by
  unfold Balance.check Stream.toList
  rw [h.openBlocks_append, openBlocks_other (by simp [s.final_kind]) (by simp [s.final_kind])]
  rfl

-- ==================================================== what follows a No

/-- Each `No` among the tokens stands before an opening brace. -/
def BraceAfterOtherwise : List Token → Prop
  | [] => True
  | t :: ts =>
    (t.kind = .otherwise → ∃ o rest, ts = o :: rest ∧ o.kind = .openBrace)
      ∧ BraceAfterOtherwise ts

/-- The property is that of two pieces, if a `No` does not end the
first. -/
private theorem braceAfterOtherwise_append {ts us : List Token}
    (hts : BraceAfterOtherwise ts) (hus : BraceAfterOtherwise us) :
    BraceAfterOtherwise (ts ++ us) := by
  induction ts with
  | nil => exact hus
  | cons t ts ih =>
    refine ⟨fun ht => ?_, ih hts.2⟩
    obtain ⟨o, rest, rfl, ho⟩ := hts.1 ht
    exact ⟨o, rest ++ us, rfl, ho⟩

/-- A token of another kind in front changes nothing. -/
private theorem braceAfterOtherwise_cons {t : Token} (ht : t.kind ≠ .otherwise)
    {ts : List Token} (hts : BraceAfterOtherwise ts) : BraceAfterOtherwise (t :: ts) :=
  ⟨fun h => absurd h ht, hts⟩

/-- In a phrase, each `No` stands before an opening brace. -/
theorem brace_after_otherwise {p : Phrase} {ts : List Token} (h : Derives p ts) :
    BraceAfterOtherwise ts := by
  induction h with
  | program hm hb ih => exact braceAfterOtherwise_cons (by simp [hm]) ih
  | block ho hs hc ih =>
    refine braceAfterOtherwise_cons (by simp [ho]) ?_
    exact braceAfterOtherwise_append ih (braceAfterOtherwise_cons (by simp [hc]) trivial)
  | none => exact trivial
  | more hs hss ihs ihss => exact braceAfterOtherwise_append ihs ihss
  | @plain t ht =>
    exact braceAfterOtherwise_cons (Kind.plain_ne t.kind ht).2.2 trivial
  | output ht ha => exact braceAfterOtherwise_cons (by simp [ht]) trivial
  | condition ht ha hb ih => exact braceAfterOtherwise_cons (by simp [ht]) ih
  | conditionOtherwise ht ha hb ho hd ihb ihd =>
    refine braceAfterOtherwise_cons (by simp [ht]) ?_
    exact braceAfterOtherwise_append ihb ⟨fun _ => hd.block_ne_nil, ihd⟩
  | loop ht ha hb ih => exact braceAfterOtherwise_cons (by simp [ht]) ih

end Derives

end Aula
