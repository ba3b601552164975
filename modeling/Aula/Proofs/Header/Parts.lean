/-
Cutting is the only way to take a condition apart at its operators.

Cutting goes from the front and stops at the first place outside quotes
where an operator begins, reads the longest one there, and goes on behind
it. What comes of that can be said without cutting. A piece is passed over
if no operator is read at any place of it outside quotes, whatever stands
behind it (`Passes`). A text is cut into pieces and operators if each piece
is passed over, closes its quotes before an operator, and the operator is
the one that is read there (`IsCut`).

Both directions hold: what cutting leaves is such (`isCut_cut`), and what is
such is found again by cutting (`IsCut.cut_eq`). So whoever puts a condition
together need not cut it to know its parts.
-/
import Aula.Proofs.Header.Splitting

namespace Aula

open Text (quotedBehind quotedBehind_quote quotedBehind_cons)

-- ============================================================= operators

namespace Operator

/-- No operator is read where none begins. -/
theorem read?_eq_none_iff {s : Text} : read? s = none ↔ ∀ o : Operator, ¬ o.symbol <+: s := by
  unfold read?
  rw [List.find?_eq_none]
  constructor
  · intro h o hprefix
    exact h o o.mem_all (List.isPrefixOf_iff_prefix.2 hprefix)
  · intro h o _ hprefix
    exact h o (List.isPrefixOf_iff_prefix.1 hprefix)

/-- Where an operator begins, one is read. -/
theorem read?_symbol_append_ne_none (o : Operator) (s : Text) :
    read? (o.symbol ++ s) ≠ none :=
  fun h => read?_eq_none_iff.1 h o (List.prefix_append ..)

/-- No operator begins with a quote. -/
theorem read?_quote (s : Text) : read? ('"' :: s) = none := by
  rw [read?_eq_none_iff]
  intro o hprefix
  obtain ⟨t, heq⟩ := hprefix
  cases o <;> cases heq

/-- An operator has no quotes. -/
theorem quotedBehind_symbol (quoted : Bool) (o : Operator) :
    quotedBehind quoted o.symbol = quoted := by
  cases o <;> rfl

end Operator

namespace Condition

variable {quoted : Bool} {w rest : Text} {later : List (Operator × Text)}

-- =========================================================== passing over

/-- No operator is read in `w` outside quotes, where `rest` stands behind
it. -/
def Passes (quoted : Bool) (w rest : Text) : Prop :=
  ∀ before c after, w = before ++ c :: after → quotedBehind quoted before = false →
    Operator.read? (c :: (after ++ rest)) = none

namespace Passes

theorem nil : Passes quoted [] rest := by
  intro before c after heq
  simp at heq

theorem cons {c : Char} (hc : quoted = false → Operator.read? (c :: (w ++ rest)) = none)
    (h : Passes (if c = '"' then !quoted else quoted) w rest) :
    Passes quoted (c :: w) rest := by
  intro before d after heq hout
  cases before with
  | nil =>
    obtain ⟨rfl, rfl⟩ := List.cons.inj heq
    exact hc hout
  | cons b before =>
    obtain ⟨rfl, rfl⟩ := List.cons.inj heq
    exact h before d after rfl hout

theorem head {c : Char} (h : Passes quoted (c :: w) rest) (hq : quoted = false) :
    Operator.read? (c :: (w ++ rest)) = none :=
  h [] c w rfl hq

theorem tail {c : Char} (h : Passes quoted (c :: w) rest) :
    Passes (if c = '"' then !quoted else quoted) w rest := by
  intro before d after heq hout
  exact h (c :: before) d after (by rw [heq]; rfl) hout

/-- An operator in such a text stands inside quotes. -/
theorem quoted_of_symbol (h : Passes quoted w rest) {before after : Text} {o : Operator}
    (heq : w = before ++ (o.symbol ++ after)) : quotedBehind quoted before = true := by
  rw [← Bool.not_eq_false]
  intro hout
  obtain ⟨c, symbol, hsymbol⟩ := List.exists_cons_of_length_pos o.symbol_length_pos
  have hnone := h before c (symbol ++ after) (by rw [heq, hsymbol]; rfl) hout
  refine o.read?_symbol_append_ne_none (after ++ rest) ?_
  rw [hsymbol, ← List.append_assoc]
  exact hnone

end Passes

/-- Cutting passes over such a text. -/
theorem cut_append (h : Passes quoted w rest) :
    cut quoted (w ++ rest)
      = (w ++ (cut (quotedBehind quoted w) rest).1, (cut (quotedBehind quoted w) rest).2) := by
  induction w generalizing quoted with
  | nil => rfl
  | cons c w ih =>
    have hrest := ih h.tail
    by_cases hc : c = '"'
    · subst hc
      rw [if_pos rfl] at hrest
      rw [List.cons_append, cut, if_pos rfl, hrest, quotedBehind_quote]
      rfl
    · rw [if_neg hc] at hrest
      rw [List.cons_append, cut, if_neg hc, quotedBehind_cons hc]
      cases quoted with
      | true =>
        rw [if_pos rfl, hrest]
        rfl
      | false =>
        rw [if_neg Bool.false_ne_true, h.head rfl]
        simp only [hrest]
        rfl

/-- Cutting stops at the operator that is read. -/
theorem cut_operator {o : Operator} (h : Operator.read? (o.symbol ++ rest) = some o) :
    cut false (o.symbol ++ rest) = ([], (o, (cut false rest).1) :: (cut false rest).2) := by
  obtain ⟨c, symbol, hsymbol⟩ := List.exists_cons_of_length_pos o.symbol_length_pos
  have hquote : c ≠ '"' := by
    have hall : o.symbol.head? ≠ some '"' := by cases o <;> decide
    rintro rfl
    exact hall (by rw [hsymbol]; rfl)
  have hdrop : (symbol ++ rest).drop (o.symbol.length - 1) = rest := by
    rw [hsymbol, List.length_cons, Nat.add_sub_cancel, List.drop_left]
  rw [hsymbol, List.cons_append] at h ⊢
  rw [cut, if_neg hquote, if_neg Bool.false_ne_true, h]
  simp only [hdrop]

-- =============================================================== the cut

/-- An operator in front, and the text up to the next one. -/
theorem spell_operator (o : Operator) (s : Text) (tail : List (Operator × Text)) :
    spell ([], (o, s) :: tail) = o.symbol ++ spell (s, tail) := by
  simp [spell]

/-- The text in front, and all that is behind it. -/
theorem spell_head (head : Text) (tail : List (Operator × Text)) :
    spell (head, tail) = head ++ spell ([], tail) := rfl

/-- What cutting leaves: texts that are passed over, and between them the
operators that are read there. -/
inductive IsCut : (quoted : Bool) → (head : Text) → List (Operator × Text) → Prop where
  | last {quoted : Bool} {head : Text} (hpass : Passes quoted head []) : IsCut quoted head []
  | operator {quoted : Bool} {head s : Text} {o : Operator} {tail : List (Operator × Text)}
      (hpass : Passes quoted head (spell ([], (o, s) :: tail)))
      (hclosed : quotedBehind quoted head = false)
      (hread : Operator.read? (o.symbol ++ spell (s, tail)) = some o)
      (hrest : IsCut false s tail) : IsCut quoted head ((o, s) :: tail)

/-- A character that is passed over, in front of the first piece. -/
theorem IsCut.cons {c : Char}
    (hc : quoted = false → Operator.read? (c :: spell (w, later)) = none)
    (h : IsCut (if c = '"' then !quoted else quoted) w later) :
    IsCut quoted (c :: w) later := by
  cases h with
  | last hpass => exact .last (hpass.cons hc)
  | operator hpass hclosed hread hrest => exact .operator (hpass.cons hc) hclosed hread hrest

/-- Cutting leaves such pieces. -/
theorem isCut_cut (quoted : Bool) (s : Text) : IsCut quoted (cut quoted s).1 (cut quoted s).2 := by
  fun_induction cut quoted s with
  | case1 => exact .last .nil
  | case2 quoted s head tail h ih =>
    rw [h] at ih
    exact .cons (fun _ => Operator.read?_quote _) ih
  | case3 c s hc head tail h ih =>
    rw [h] at ih
    refine .cons (fun hq => absurd hq (by decide)) ?_
    rwa [if_neg hc]
  | case4 quoted c s hc hq hread head tail h ih =>
    have hspell := spell_cut quoted s
    rw [h] at ih hspell
    refine .cons (fun _ => by rwa [hspell]) ?_
    rwa [if_neg hc]
  | case5 quoted c s hc hq o hread head tail h ih =>
    have hspell := spell_cut false (s.drop (o.symbol.length - 1))
    rw [h] at ih hspell
    refine .operator .nil (Bool.eq_false_iff.2 hq) ?_ ih
    rwa [hspell, Operator.symbol_append_drop hread]

/-- Such pieces are found again. -/
theorem IsCut.cut_eq (h : IsCut quoted w later) :
    cut quoted (spell (w, later)) = (w, later) := by
  induction h with
  | @last quoted head hpass =>
    have hnil : ∀ q, cut q [] = ([], []) := fun q => by rw [cut]
    have hspell : spell (head, []) = head ++ [] := rfl
    rw [hspell, cut_append hpass, hnil, List.append_nil]
  | @operator quoted head s o tail hpass hclosed hread hrest ih =>
    rw [spell_head, cut_append hpass, hclosed, spell_operator, cut_operator hread, ih,
      List.append_nil]

end Condition

end Aula
