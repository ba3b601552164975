/-
Conditions are accepted by their grammar.

A check cuts a condition at its operators, drops the operands that are
blank, and wants what is left to alternate. The grammar says outright that
operands and operators alternate, with blanks between them.

# Cutting finds what was put together

Operands do not hold an operator outside their quotes, and the text behind
an operator never begins with an equals sign, so the operator in front is
the longest one that fits. Hence a condition that is put together from
operands and operators is cut into the same (`cut_spell`).

# Nothing is dropped

The parts of a condition alternate exactly if no operand is blank
(`parts_eq_alternate_iff`). An operand that was dropped leaves an operator
where an operand should be, and that is never accepted.
-/
import Aula.Proofs.Header.Parts

namespace Aula

open Pattern (Word many oneOrMore)
open CharClass (areApart)
open Operand (quotedOr quotedText)
open Text (IsClear quotedBehind)
open Grammar (padded operand operator comparing)

-- ============================================================= operators

namespace Operator

/-- The marks that cutting a condition stops at: quotes, and what an
operator begins with. -/
def marks : Text := "\"=!<>&|"

/-- A character that begins no operator begins none. -/
theorem read?_eq_none {c : Char} (h : c ∉ marks) (s : Text) : read? (c :: s) = none := by
  rw [read?_eq_none_iff]
  rintro o ⟨rest, heq⟩
  apply h
  cases o <;> (cases heq; decide)

/-- An operator is read where it stands, unless it is the beginning of a
longer one. -/
theorem read?_symbol_append (o : Operator) {c : Char} (h : c ≠ '=') (s : Text) :
    read? (o.symbol ++ c :: s) = some o := by
  cases o with
  | equal | notEqual | atMost | atLeast | and | or => rfl
  | less =>
    show List.find? _ all = _
    simp [all, symbol, h.symm]
  | greater =>
    show List.find? _ all = _
    simp [all, symbol, h.symm]

/-- No operator is an operand. -/
theorem not_word_operand (o : Operator) : ¬ Word operand o.symbol := by
  rw [Operand.word_operand_iff]
  cases o <;> decide

/-- The comparing operators are the words of `comparing`. -/
theorem word_comparing_iff {w : Text} :
    Word comparing w ↔ ∃ o : Operator, o.isRelational = true ∧ w = o.symbol := by
  unfold comparing
  simp only [Pattern.word_or_iff, Pattern.word_text_iff]
  constructor
  · intro h
    rcases h with ((((rfl | rfl) | rfl) | rfl) | rfl) | rfl
    · exact ⟨.equal, rfl, rfl⟩
    · exact ⟨.notEqual, rfl, rfl⟩
    · exact ⟨.atMost, rfl, rfl⟩
    · exact ⟨.atLeast, rfl, rfl⟩
    · exact ⟨.less, rfl, rfl⟩
    · exact ⟨.greater, rfl, rfl⟩
  · intro h
    obtain ⟨o, hrelational, rfl⟩ := h
    cases o with
    | and | or => cases hrelational
    | equal | notEqual | atMost | atLeast | less | greater => simp [symbol]

/-- The operators are the words of `operator`. -/
theorem word_operator_iff {w : Text} : Word operator w ↔ ∃ o : Operator, w = o.symbol := by
  unfold operator
  simp only [Pattern.word_or_iff, Pattern.word_text_iff, word_comparing_iff]
  constructor
  · intro h
    rcases h with (⟨o, -, rfl⟩ | rfl) | rfl
    · exact ⟨o, rfl⟩
    · exact ⟨.and, rfl⟩
    · exact ⟨.or, rfl⟩
  · intro h
    obtain ⟨o, rfl⟩ := h
    cases o with
    | and => exact .inl (.inr rfl)
    | or => exact .inr rfl
    | equal | notEqual | atMost | atLeast | less | greater => exact .inl (.inl ⟨_, rfl, rfl⟩)

end Operator

namespace Condition

-- =============================================================== cutting

/-- Cutting passes over a text whose marks stand inside quotes. -/
theorem Passes.of_isClear {quoted : Bool} {w : Text} (h : IsClear "=!<>&|" quoted w)
    (rest : Text) : Passes quoted w rest := by
  intro before c after heq hout
  by_cases hquote : c = '"'
  · subst hquote
    exact Operator.read?_quote _
  · refine Operator.read?_eq_none (fun hmem => ?_) _
    rcases List.mem_cons.1 hmem with hc | hc
    · exact hquote hc
    · rw [h before c after heq hc] at hout
      cases hout

/-- What makes the words of a shape operands: with blanks around them they
can be told from the operators between them. -/
structure IsOperand (p : Pattern) : Prop where
  /-- No operator begins in a word, outside quotes. -/
  pass : ∀ u, Word p u → Word (many (quotedOr Operator.marks)) u
  /-- No word makes a longer operator of the one in front of it. -/
  first_not_equals : areApart (padded p).first [.anyOf "="] = true
  nullable : p.nullable = false
  first_not_blank : areApart p.first [.blank] = true
  last_not_blank : areApart p.mirror.first [.blank] = true

namespace IsOperand

variable {p : Pattern} (hp : IsOperand p)
include hp

theorem ne_nil {u : Text} (h : Word p u) : u ≠ [] := by
  rintro rfl
  have hnull := h.nullable
  rw [hp.nullable] at hnull
  cases hnull

/-- Blanks around an operand are what trimming takes away. -/
theorem word_padded_iff {u : Text} : Word (padded p) u ↔ Word p u.trim :=
  Pattern.word_padded_iff hp.first_not_blank hp.last_not_blank

/-- An operand on its own is trimmed already. -/
theorem trim_eq {u : Text} (h : Word p u) : u.trim = u :=
  Pattern.Word.trim_eq h hp.first_not_blank hp.last_not_blank

/-- Cutting passes over an operand and the blanks around it, and is outside
quotes behind them. -/
theorem passes {u : Text} (h : Word (padded p) u) (rest : Text) :
    Passes false u rest ∧ quotedBehind false u = false := by
  have hword := Operand.word_quotedOr_of_padded (by decide) hp.pass h
  obtain ⟨hclear, hclosed⟩ := Operand.isClear_of_word (by decide) hword
  exact ⟨.of_isClear hclear rest, hclosed⟩

/-- An operand has a first character, and that is not an equals sign. -/
theorem exists_cons {u : Text} (h : Word (padded p) u) : ∃ c v, u = c :: v ∧ c ≠ '=' := by
  obtain ⟨c, v, rfl⟩ : ∃ c v, u = c :: v := by
    refine List.exists_cons_of_ne_nil ?_
    rintro rfl
    exact hp.ne_nil (hp.word_padded_iff.1 h) rfl
  refine ⟨c, v, rfl, ?_⟩
  rintro rfl
  have hnot := h.head?_not_has hp.first_not_equals '=' rfl
  exact absurd (CharClass.has_anyOf.2 (List.mem_singleton_self '=')) (Bool.eq_false_iff.1 hnot)

/-- What is put together from operands and operators, with an ending that is
cut where it begins, is cut into the same. -/
theorem isCut_append {ending : List (Operator × Text)}
    (hending : ∀ u, Word (padded p) u → IsCut false u ending) {head : Text}
    (hhead : Word (padded p) head) {tail : List (Operator × Text)}
    (htail : ∀ x ∈ tail, Word (padded p) x.2) : IsCut false head (tail ++ ending) := by
  induction tail generalizing head with
  | nil => exact hending head hhead
  | cons x tail ih =>
    obtain ⟨o, s⟩ := x
    obtain ⟨hs, hlater⟩ := List.forall_mem_cons.1 htail
    obtain ⟨hpass, hclosed⟩ := hp.passes hhead (spell ([], (o, s) :: (tail ++ ending)))
    obtain ⟨c, t, rfl, hc⟩ := hp.exists_cons hs
    exact .operator hpass hclosed (o.read?_symbol_append hc _) (ih hs hlater)

/-- What is put together from operands and operators is cut into the same. -/
theorem cut_spell {head : Text} (hhead : Word (padded p) head)
    {tail : List (Operator × Text)} (htail : ∀ x ∈ tail, Word (padded p) x.2) :
    cut false (spell (head, tail)) = (head, tail) := by
  have hcut := hp.isCut_append (fun u hu => .last (hp.passes hu []).1) hhead htail
  rw [List.append_nil] at hcut
  exact hcut.cut_eq

end IsOperand

-- =========================================================== alternation

/-- Parts that alternate: an operand, and behind it operators with an
operand each. -/
def alternate (first : Text) (later : List (Operator × Text)) : List Part :=
  .operand first :: later.flatMap fun x => [.operator x.1, .operand x.2]

theorem alternate_cons (first s : Text) (o : Operator) (later : List (Operator × Text)) :
    alternate first ((o, s) :: later) = .operand first :: .operator o :: alternate s later := by
  unfold alternate
  rw [List.flatMap_cons]
  rfl

/-- The operands and operators of a condition that is cut. -/
def partsOf (pieces : Text × List (Operator × Text)) : List Part :=
  operandPart pieces.1 ++ pieces.2.flatMap fun (o, s) => .operator o :: operandPart s

/-- Where the first operand is blank, an operator is in front, or nothing. -/
theorem partsOf_ne_alternate {head : Text} (h : head.trim = []) (first : Text)
    (tail later : List (Operator × Text)) : partsOf (head, tail) ≠ alternate first later := by
  unfold partsOf operandPart
  rw [if_pos h]
  cases tail with
  | nil => exact List.cons_ne_nil _ _ ∘ Eq.symm
  | cons x tail =>
    intro heq
    cases (List.cons.inj heq).1

/-- Parts alternate exactly if no operand is blank. -/
theorem partsOf_eq_alternate_iff {head first : Text} {tail later : List (Operator × Text)} :
    partsOf (head, tail) = alternate first later
      ↔ first ≠ [] ∧ (∀ x ∈ later, x.2 ≠ []) ∧ first = head.trim
        ∧ later = tail.map fun x => (x.1, x.2.trim) := by
  induction tail generalizing head first later with
  | nil =>
    by_cases hblank : head.trim = []
    · refine iff_of_false (partsOf_ne_alternate hblank _ _ _) ?_
      intro h
      obtain ⟨hne, -, heq, -⟩ := h
      exact hne (heq.trans hblank)
    · unfold partsOf operandPart
      rw [if_neg hblank]
      cases later with
      | nil =>
        simp only [alternate, List.flatMap_nil, List.append_nil, List.cons.injEq, and_true,
          Part.operand.injEq]
        constructor
        · rintro rfl
          exact ⟨hblank, List.forall_mem_nil _, rfl, rfl⟩
        · intro h
          obtain ⟨-, -, heq, -⟩ := h
          exact heq.symm
      | cons y later => simp [alternate]
  | cons x tail ih =>
    obtain ⟨o, s⟩ := x
    by_cases hblank : head.trim = []
    · refine iff_of_false (partsOf_ne_alternate hblank _ _ _) ?_
      intro h
      obtain ⟨hne, -, heq, -⟩ := h
      exact hne (heq.trans hblank)
    · have hparts : partsOf (head, (o, s) :: tail)
          = .operand head.trim :: .operator o :: partsOf (s, tail) := by
        unfold partsOf operandPart
        rw [if_neg hblank]
        rfl
      rw [hparts]
      cases later with
      | nil => simp [alternate]
      | cons y later =>
        obtain ⟨o', s'⟩ := y
        rw [alternate_cons, List.cons.injEq, List.cons.injEq, ih, List.forall_mem_cons,
          List.map_cons, List.cons.injEq]
        simp only [Part.operand.injEq, Part.operator.injEq, Prod.mk.injEq]
        constructor
        · intro h
          obtain ⟨rfl, rfl, hne, hlater, hs, hmap⟩ := h
          exact ⟨hblank, ⟨hne, hlater⟩, rfl, ⟨rfl, hs⟩, hmap⟩
        · intro h
          obtain ⟨-, ⟨hne, hlater⟩, heq, ⟨ho, hs⟩, hmap⟩ := h
          exact ⟨heq.symm, ho.symm, hne, hlater, hs, hmap⟩

/-- The parts of a condition alternate between words of a shape and
operators exactly if the condition is put together from such words, with
blanks around them, and those operators. -/
theorem IsOperand.parts_eq_alternate_iff {p : Pattern} (hp : IsOperand p) {t first : Text}
    {later : List (Operator × Text)} :
    (parts t = alternate first later ∧ Word p first ∧ ∀ x ∈ later, Word p x.2)
      ↔ ∃ head tail, t = spell (head, tail) ∧ Word (padded p) head
        ∧ (∀ x ∈ tail, Word (padded p) x.2) ∧ first = head.trim
        ∧ later = tail.map fun x => (x.1, x.2.trim) := by
  have hparts : parts t = partsOf (cut false t) := rfl
  constructor
  · intro h
    obtain ⟨halternate, hfirst, hlater⟩ := h
    rw [hparts] at halternate
    obtain ⟨-, -, rfl, rfl⟩ := partsOf_eq_alternate_iff.1 halternate
    refine ⟨_, _, (spell_cut false t).symm, hp.word_padded_iff.2 hfirst, ?_, rfl, rfl⟩
    intro x hx
    exact hp.word_padded_iff.2 (hlater _ (List.mem_map_of_mem hx))
  · intro h
    obtain ⟨head, tail, rfl, hhead, htail, rfl, rfl⟩ := h
    have hfirst := hp.word_padded_iff.1 hhead
    have hlater : ∀ x ∈ tail.map fun x => (x.1, x.2.trim), Word p x.2 := by
      simp only [List.forall_mem_map]
      exact fun x hx => hp.word_padded_iff.1 (htail x hx)
    refine ⟨?_, hfirst, hlater⟩
    rw [hparts, hp.cut_spell hhead htail]
    exact partsOf_eq_alternate_iff.2
      ⟨hp.ne_nil hfirst, fun x hx => hp.ne_nil (hlater x hx), rfl, rfl⟩

-- ============================================================== checking

/-- Operands are accepted between operators. -/
theorem checkAlternation_alternate {condition first : Text} (hfirst : Word operand first)
    {later : List (Operator × Text)} (hlater : ∀ x ∈ later, Word operand x.2) :
    checkAlternation condition (alternate first later) = .ok () := by
  induction later generalizing first with
  | nil => exact Operand.check_eq_ok_iff_operand.2 hfirst
  | cons x later ih =>
    obtain ⟨o, s⟩ := x
    obtain ⟨hs, hlater⟩ := List.forall_mem_cons.1 hlater
    rw [alternate_cons, checkAlternation]
    simp only [Part.text, Operand.check_eq_ok_iff_operand.2 hfirst]
    exact ih hs hlater

/-- A part that is accepted as an operand is none of the operators. -/
theorem exists_operand {part : Part} (h : Word operand part.text) :
    ∃ s, part = .operand s ∧ Word operand s := by
  cases part with
  | operand s => exact ⟨s, rfl, h⟩
  | operator o => exact absurd h o.not_word_operand

/-- Nothing else is accepted. -/
theorem exists_alternate_of_checkAlternation {condition : Text} {ps : List Part}
    (h : checkAlternation condition ps = .ok ()) :
    ∃ first later, ps = alternate first later ∧ Word operand first
      ∧ ∀ x ∈ later, Word operand x.2 := by
  fun_induction checkAlternation condition ps with
  | case1 => cases h
  | case2 part =>
    obtain ⟨s, rfl, hs⟩ := exists_operand (Operand.check_eq_ok_iff_operand.1 h)
    exact ⟨s, [], rfl, hs, List.forall_mem_nil _⟩
  | case3 => cases h
  | case4 => cases h
  | case5 part ps hpart o ih =>
    obtain ⟨s, rfl, hs⟩ := exists_operand (Operand.check_eq_ok_iff_operand.1 hpart)
    obtain ⟨first, later, rfl, hfirst, hlater⟩ := ih h
    refine ⟨s, (o, first) :: later, (alternate_cons s first o later).symm, hs, ?_⟩
    exact List.forall_mem_cons.2 ⟨hfirst, hlater⟩

/-- Operands and variables are told from operators. -/
theorem isOperand_operand : IsOperand operand where
  pass := by
    intro u hu
    unfold operand at hu
    rcases Pattern.word_or_iff.1 hu with hu | hu
    · exact Operand.word_quotedOr_of_letters hu (by decide)
    · exact Operand.word_quotedOr_of_quotedText hu
  first_not_equals := by decide
  nullable := by decide
  first_not_blank := by decide
  last_not_blank := by decide

theorem isOperand_name : IsOperand Shape.name where
  pass := fun _ hu => Operand.word_quotedOr_of_letters hu (by decide)
  first_not_equals := by decide
  nullable := by decide
  first_not_blank := by decide
  last_not_blank := by decide

/-- An operator and what is behind it. -/
theorem word_operator_append_iff {p : Pattern} (u : Text) :
    Word (operator ++ p) u
      ↔ ∃ x : Operator × Text, Word p x.2 ∧ u = x.1.symbol ++ x.2 := by
  rw [Pattern.word_append_iff]
  simp only [Operator.word_operator_iff]
  constructor
  · intro h
    obtain ⟨_, s, rfl, ⟨o, rfl⟩, hs⟩ := h
    exact ⟨(o, s), hs, rfl⟩
  · intro h
    obtain ⟨⟨o, s⟩, hs, rfl⟩ := h
    exact ⟨_, s, rfl, ⟨o, rfl⟩, hs⟩

/-- The words of the grammar, taken apart at their operators. -/
theorem word_condition_iff {t : Text} :
    Word Grammar.condition t
      ↔ Word (padded Shape.name) t
        ∨ ∃ head tail, t = spell (head, tail) ∧ tail ≠ [] ∧ Word (padded operand) head
          ∧ ∀ x ∈ tail, Word (padded operand) x.2 := by
  unfold Grammar.condition
  rw [Pattern.word_or_iff, Pattern.word_append_iff]
  refine or_congr_right ?_
  simp only [Pattern.word_oneOrMore_iff word_operator_append_iff]
  constructor
  · intro h
    obtain ⟨head, _, rfl, hhead, tail, hne, htail, rfl⟩ := h
    exact ⟨head, tail, rfl, hne, hhead, htail⟩
  · intro h
    obtain ⟨head, tail, rfl, hne, hhead, htail⟩ := h
    exact ⟨head, _, rfl, hhead, tail, hne, htail, rfl⟩

/-- What is accepted alternates: it is one variable, or at least two
operands. -/
theorem exists_alternate_of_check {t : Text} (h : check t = .ok ()) :
    ∃ first later, parts t = alternate first later
      ∧ if later = [] then Word Shape.name first
        else Word operand first ∧ ∀ x ∈ later, Word operand x.2 := by
  unfold check at h
  split at h
  · cases h
  · next part hparts =>
    have hname := Operand.checkIdentifier_eq_ok_iff_name.1 h
    obtain ⟨s, rfl, -⟩ := exists_operand (.first (.first hname))
    exact ⟨s, [], hparts, by rwa [if_pos rfl]⟩
  · next hmany =>
    obtain ⟨first, later, hparts, hfirst, hlater⟩ := exists_alternate_of_checkAlternation h
    refine ⟨first, later, hparts, ?_⟩
    rw [if_neg]
    · exact ⟨hfirst, hlater⟩
    · rintro rfl
      exact hmany _ hparts

/-- One variable is accepted. -/
theorem check_of_name {t name : Text} (hparts : parts t = alternate name [])
    (h : Word Shape.name name) : check t = .ok () := by
  unfold check
  rw [hparts]
  exact Operand.checkIdentifier_eq_ok_iff_name.2 h

/-- So are operands with operators between them. -/
theorem check_of_operands {t first : Text} {later : List (Operator × Text)}
    (hparts : parts t = alternate first later) (hne : later ≠ [])
    (hfirst : Word operand first) (hlater : ∀ x ∈ later, Word operand x.2) :
    check t = .ok () := by
  obtain ⟨⟨o, s⟩, later, rfl⟩ := List.exists_cons_of_ne_nil hne
  have halternation :
      checkAlternation t (alternate first ((o, s) :: later)) = .ok () :=
    checkAlternation_alternate hfirst hlater
  unfold check
  rw [hparts]
  rw [alternate_cons] at halternation ⊢
  exact halternation

/-- A text is accepted in the parentheses of `Si` if it is a condition, and
no other text is. -/
theorem check_eq_ok_iff_word (t : Text) :
    check t = .ok () ↔ Word Grammar.condition t := by
  rw [word_condition_iff]
  constructor
  · intro h
    obtain ⟨first, later, hparts, hwords⟩ := exists_alternate_of_check h
    by_cases hnil : later = []
    · rw [if_pos hnil] at hwords
      subst hnil
      obtain ⟨head, tail, rfl, hhead, -, -, hmap⟩ := isOperand_name.parts_eq_alternate_iff.1
        ⟨hparts, hwords, List.forall_mem_nil _⟩
      obtain rfl := List.map_eq_nil_iff.1 hmap.symm
      have hspell : spell (head, []) = head := List.append_nil head
      exact .inl (by rwa [hspell])
    · rw [if_neg hnil] at hwords
      obtain ⟨head, tail, heq, hhead, htail, -, hmap⟩ :=
        isOperand_operand.parts_eq_alternate_iff.1 ⟨hparts, hwords⟩
      refine .inr ⟨head, tail, heq, ?_, hhead, htail⟩
      rintro rfl
      exact hnil hmap
  · intro h
    rcases h with hname | ⟨head, tail, heq, hne, hhead, htail⟩
    · obtain ⟨hparts, hfirst, -⟩ := isOperand_name.parts_eq_alternate_iff.2
        ⟨t, [], (List.append_nil t).symm, hname, List.forall_mem_nil _, rfl, rfl⟩
      exact check_of_name hparts hfirst
    · obtain ⟨hparts, hfirst, hlater⟩ := isOperand_operand.parts_eq_alternate_iff.2
        ⟨head, tail, heq, hhead, htail, rfl, rfl⟩
      exact check_of_operands hparts (mt List.map_eq_nil_iff.1 hne) hfirst hlater

end Condition

end Aula
