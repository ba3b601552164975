/-
Chains of operands, taken apart.

The value of a declaration or an assignment is a chain of operands
(`Shape.chain`), and here it is the list of them (`Shape.Chained`). The relation
leaves open what an operand is and which operators may join them, so the same
text can be looked at as a chain of wider operands. With any operands that a
value may have (`Shape.operand`) there is still one way to take a text apart
(`Chained.unique`): an operand ends where a blank, an operator or nothing
follows.
-/
import Aula.Proofs.Pattern.Pieces

namespace Aula.Shape

open Pattern (Word one many opt)
open Text (Continues)

-- ================================================================ chains

/-- A text of operands, each with blanks behind it, that operators join, with
blanks behind them. -/
inductive Chained (operand : Pattern) (operators : CharClass) : Text → List Text → Prop where
  | last {u b : Text} (hu : Word operand u) (hb : Word blanks b) :
      Chained operand operators (u ++ b) [u]
  | more {u b a rest : Text} {o : Char} {us : List Text} (hu : Word operand u)
      (hb : Word blanks b) (ho : operators.has o = true) (ha : Word blanks a)
      (h : Chained operand operators rest us) :
      Chained operand operators (u ++ (b ++ o :: (a ++ rest))) (u :: us)

namespace Chained

variable {p q : Pattern} {k l : CharClass} {w : Text} {us : List Text}

/-- All operands have the shape of one. -/
theorem forall_word (h : Chained p k w us) : ∀ u ∈ us, Word p u := by
  induction h with
  | last hu => exact List.forall_mem_singleton.2 hu
  | more hu _ _ _ _ ih => exact List.forall_mem_cons.2 ⟨hu, ih⟩

/-- Where other operands and operators are allowed as well, it is a chain as
before. -/
theorem mono (hpq : ∀ u, Word p u → Word q u) (hkl : ∀ c, k.has c = true → l.has c = true)
    (h : Chained p k w us) : Chained q l w us := by
  induction h with
  | last hu hb => exact .last (hpq _ hu) hb
  | more hu hb ho ha _ ih => exact .more (hpq _ hu) hb (hkl _ ho) ha ih

/-- Operands with plus signs between each two of them are a chain. -/
theorem intercalate (hplus : k.has '+' = true) (hne : us ≠ []) (h : ∀ u ∈ us, Word p u) :
    Chained p k ((" + " : Text).intercalate us) us := by
  have hspace : Word blanks " " := Rule.word_of_covers (by decide)
  induction us with
  | nil => exact absurd rfl hne
  | cons u us ih =>
    obtain ⟨hu, hus⟩ := List.forall_mem_cons.1 h
    cases us with
    | nil =>
      have hlast : Chained p k (u ++ []) [u] := .last hu .stop
      rw [List.append_nil] at hlast
      rwa [List.intercalate_singleton]
    | cons u' us =>
      have hmore := more hu hspace hplus hspace (ih (List.cons_ne_nil _ _) hus)
      rwa [List.intercalate_cons_cons, List.append_assoc]

end Chained

/-- What stands behind an operand of a chain is more operands. -/
theorem exists_chained {p : Pattern} {k : CharClass} {m : Text}
    (h : Word (many (one k ++ blanks ++ (p ++ blanks))) m) :
    ∀ u b, Word p u → Word blanks b → ∃ us, Chained p k (u ++ b ++ m) us := by
  generalize hm : many (one k ++ blanks ++ (p ++ blanks)) = shape at h
  induction h with
  | text | one | seq | first | second | except => cases hm
  | stop =>
    intro u b hu hb
    rw [List.append_nil]
    exact ⟨[u], .last hu hb⟩
  | @step _ piece m hpiece _ _ ih =>
    cases hm
    intro u b hu hb
    obtain ⟨front, back, rfl, hfront, hback⟩ := Pattern.word_append_iff.1 hpiece
    obtain ⟨sign, a, rfl, hsign, ha⟩ := Pattern.word_append_iff.1 hfront
    obtain ⟨u', b', rfl, hu', hb'⟩ := Pattern.word_append_iff.1 hback
    obtain ⟨us, hus⟩ := ih rfl u' b' hu' hb'
    cases hsign with
    | @one _ o ho =>
      refine ⟨u :: us, ?_⟩
      have hmore := Chained.more hu hb ho ha hus
      simpa using hmore

/-- A chain is taken apart at its operators. -/
theorem word_chain_iff {literal : Pattern} {operators : CharClass} {w : Text} :
    Word (chain literal operators) w
      ↔ ∃ us, Chained (literal ||| identifier) operators w us := by
  unfold chain
  constructor
  · intro h
    obtain ⟨first, m, rfl, hfirst, hm⟩ := Pattern.word_append_iff.1 h
    obtain ⟨u, b, rfl, hu, hb⟩ := Pattern.word_append_iff.1 hfirst
    exact exists_chained hm u b hu hb
  · intro h
    obtain ⟨us, h⟩ := h
    induction h with
    | @last u b hu hb =>
      rw [← List.append_nil (u ++ b)]
      exact .seq (.seq hu hb) .stop
    | @more u b a _ o us hu hb ho ha _ ih =>
      obtain ⟨first, m, rfl, hfirst, hm⟩ := Pattern.word_append_iff.1 ih
      have heq : u ++ (b ++ o :: (a ++ (first ++ m))) = (u ++ b) ++ (([o] ++ a ++ first) ++ m) := by
        simp
      rw [heq]
      exact .seq (.seq hu hb) (.step (.seq (.seq (.one ho) ha) hfirst) hm)

/-- An operand is a chain of one. -/
theorem word_chain_of_operand {literal : Pattern} {operators : CharClass} {w : Text}
    (h : Word (literal ||| identifier) w) : Word (chain literal operators) w := by
  have hlast : Chained (literal ||| identifier) operators (w ++ []) [w] := .last h .stop
  rw [List.append_nil] at hlast
  exact word_chain_iff.2 ⟨[w], hlast⟩

-- ============================================================== operands

/-- A whole number is a number. -/
theorem word_number_of_integer {w : Text} (h : Word integer w) : Word number w := by
  have hplain := Word.seq h (.second (.text []) : Word (opt ("." ++ digits)) [])
  rwa [List.append_nil] at hplain

/-- Anything that may be an operand of a value. -/
def operand : Pattern := number ||| string ||| identifier

/-- A chain of operands goes on as an operand begins. -/
theorem Chained.continues {w : Text} {us : List Text} (h : Chained operand .arithmetic w us)
    (s : Text) : Continues operand.first (w ++ s) := by
  have hbegins : ∀ {u s : Text}, Word operand u → Continues operand.first (u ++ s) := fun hu =>
    (hu.continues_append (Text.continues_all _)).mono (by decide)
  cases h with
  | last hu =>
    rw [List.append_assoc]
    exact hbegins hu
  | more hu =>
    rw [List.append_assoc]
    exact hbegins hu

/-- Behind an operand stand blanks, and an operator or nothing. -/
theorem continues_blanks {b s : Text} (hb : Word blanks b) (hs : Continues [.arithmetic] s) :
    Continues [.blank, .arithmetic] (b ++ s) :=
  (hb.continues_append hs).mono (by decide)

/-- No operator stands among blanks. -/
theorem ne_blanks {b b' s : Text} {o : Char} (hb : Word blanks b)
    (ho : CharClass.arithmetic.has o = true) : b ≠ b' ++ o :: s := by
  rintro rfl
  have hblank := Rule.word_many_one_iff.1 hb o (by simp)
  exact CharClass.not_has_of_isApart (by decide) hblank ho

/-- There is one way to take a chain of operands apart. -/
theorem Chained.unique {w : Text} {us us' : List Text} (h : Chained operand .arithmetic w us)
    (h' : Chained operand .arithmetic w us') : us = us' := by
  have hoperand : operand.isDeterministic [.blank, .arithmetic] = true := by decide
  have hblanks : blanks.isDeterministic [.arithmetic] = true := by decide
  have hspace : blanks.isDeterministic operand.first = true := by decide
  have hsign : ∀ {o : Char} (s : Text), CharClass.arithmetic.has o = true →
      Continues [.arithmetic] (o :: s) := fun s ho =>
    Text.continues_cons.2 ⟨_, List.mem_singleton_self _, ho⟩
  have hlast : ∀ {b : Text}, Word blanks b → Continues [.blank, .arithmetic] b := fun hb =>
    hb.continues.mono (by decide)
  induction h generalizing us' with
  | @last u b hu hb =>
    generalize hw : u ++ b = w at h'
    cases h' with
    | last hu' hb' =>
      obtain ⟨rfl, -⟩ := Word.append_inj hoperand hu hu' (hlast hb) (hlast hb') hw
      rfl
    | more hu' hb' ho' ha' h' =>
      obtain ⟨-, heq⟩ := Word.append_inj hoperand hu hu' (hlast hb)
        (continues_blanks hb' (hsign _ ho')) hw
      exact absurd heq (ne_blanks hb ho')
  | @more u b a rest o us hu hb ho ha h ih =>
    generalize hw : u ++ (b ++ o :: (a ++ rest)) = w at h'
    cases h' with
    | last hu' hb' =>
      obtain ⟨-, heq⟩ := Word.append_inj hoperand hu hu'
        (continues_blanks hb (hsign _ ho)) (hlast hb') hw
      exact absurd heq.symm (ne_blanks hb' ho)
    | more hu' hb' ho' ha' h' =>
      obtain ⟨rfl, heq⟩ := Word.append_inj hoperand hu hu'
        (continues_blanks hb (hsign _ ho)) (continues_blanks hb' (hsign _ ho')) hw
      obtain ⟨-, heq⟩ := Word.append_inj hblanks hb hb' (hsign _ ho) (hsign _ ho') heq
      obtain ⟨-, heq⟩ := List.cons.inj heq
      obtain ⟨-, rfl⟩ := Word.append_inj hspace ha ha' (by simpa using h.continues [])
        (by simpa using h'.continues []) heq
      rw [ih h']

end Aula.Shape
