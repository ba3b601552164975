/-
What a header that is accepted looks like: strings, and for the rest
text without quotes or parentheses.

The checks never look at a header as a whole. They cut it at separators
and operators, trim the pieces, and look at each. Cutting loses nothing
and trimming only takes blanks, so whatever shape every piece has,
repeated, the header has as well (`Text.word_of_splitTrimmed`,
`Condition.word_of_parts`).

The patterns that this is used with differ only in the strings they have:
with or without newlines for conditions and outputs, none for loops. They
agree on plain text, which is all that stands between the strings.
-/
import Aula.Proofs.Header.Cause
import Aula.Proofs.Header.Grammar

namespace Aula

open Pattern (Word one many)

-- ============================================================ plain text

/-- The text has no quotes and no parentheses. -/
def Text.IsPlain (s : Text) : Prop := ∀ c ∈ s, c ∉ ("\"()" : Text)

/-- A plain text is a run of plain characters. -/
theorem Text.isPlain_iff_word {s : Text} :
    s.IsPlain ↔ Word (many (one (.noneOf "\"()"))) s := by
  rw [Rule.word_many_one_iff]
  exact forall₂_congr fun c _ => CharClass.has_noneOf.symm

namespace Text.IsPlain

/-- A word is plain if its letters are. -/
theorem of_word {q : Pattern} {w : Text} (h : Word q w)
    (hapart : CharClass.areApart q.letters [.anyOf "\"()"] = true) : w.IsPlain :=
  h.not_mem hapart

/-- Blanks are plain. -/
theorem of_blank {s : Text} (h : ∀ c ∈ s, isBlank c = true) : s.IsPlain := by
  have hword : Word Shape.blanks s := Rule.word_many_one_iff.2 h
  exact .of_word hword (by decide)

/-- Operators are plain. -/
theorem symbol (o : Operator) : o.symbol.IsPlain := by
  have hall : o.symbol.all (fun c => decide (c ∉ ("\"()" : Text))) = true := by
    cases o <;> decide
  exact fun c hc => of_decide_eq_true (List.all_eq_true.1 hall c hc)

/-- Identifiers are plain. -/
theorem of_isIdentifier {s : Text} (h : Operand.isIdentifier s = true) : s.IsPlain :=
  .of_word (Rule.word_of_covers h) (by decide)

/-- Whole numbers are plain. -/
theorem of_isInteger {s : Text} (h : Operand.isInteger s = true) : s.IsPlain :=
  .of_word (Rule.word_of_covers h) (by decide)

end Text.IsPlain

-- ================================================ the pieces make the text

section Pieces

variable {p : Pattern} (hplain : ∀ w : Text, w.IsPlain → Word (many p) w)
include hplain

/-- Blanks at the ends change nothing. -/
theorem Text.word_of_trim {s : Text} (h : Word (many p) s.trim) : Word (many p) s := by
  obtain ⟨a, b, heq, ha, hb⟩ := s.exists_eq_trim
  rw [heq]
  exact (hplain a (.of_blank ha)).many_append (h.many_append (hplain b (.of_blank hb)))

/-- A text has a repeated shape if its pieces have it. -/
theorem Text.word_of_splitTrimmed {separator : Char} (hseparator : separator ∉ ("\"()" : Text))
    {s : Text} (h : ∀ piece ∈ splitTrimmed separator s, Word (many p) piece) :
    Word (many p) s := by
  have hbetween : Word (many p) [separator] :=
    hplain _ (by simpa [IsPlain] using hseparator)
  have hsplit : Word (many p) ([separator].intercalate (split separator s)) :=
    hbetween.many_intercalate fun piece hpiece =>
      word_of_trim hplain (h _ (List.mem_map_of_mem hpiece))
  rwa [split, intercalate_splitFrom] at hsplit

/-- An operand that is dropped is blank. -/
theorem Condition.word_of_operandPart {s : Text}
    (h : ∀ part ∈ operandPart s, Word (many p) part.text) : Word (many p) s := by
  refine Text.word_of_trim hplain ?_
  unfold operandPart at h
  by_cases hblank : s.trim = []
  · rw [hblank]
    exact .stop
  · rw [if_neg hblank] at h
    exact h _ (List.mem_singleton_self _)

/-- A condition has a repeated shape if its parts have it. -/
theorem Condition.word_of_parts {s : Text} (h : ∀ part ∈ parts s, Word (many p) part.text) :
    Word (many p) s := by
  simp only [parts, List.forall_mem_append, List.forall_mem_flatMap] at h
  rw [← spell_cut false s]
  refine (word_of_operandPart hplain h.1).many_append ?_
  rw [List.flatMap_def]
  refine Word.many_flatten fun w hw => ?_
  obtain ⟨⟨o, t⟩, hmem, rfl⟩ := List.mem_map.1 hw
  obtain ⟨-, ht⟩ := List.forall_mem_cons.1 (h.2 _ hmem)
  exact (hplain _ (.symbol o)).many_append (word_of_operandPart hplain ht)

end Pieces

-- ============================================================== operands

/-- The pieces of a header: quoted texts, and plain characters. -/
def Operand.quotedOrPlain : Pattern := quotedText ||| one (.noneOf "\"()")

namespace Operand

/-- A plain text is one piece per character. -/
theorem word_of_isPlain {w : Text} (h : w.IsPlain) : Word (many quotedOrPlain) w :=
  word_quotedOr_of_not_mem h

theorem word_of_isQuotedText {w : Text} (h : isQuotedText w = true) :
    Word (many quotedOrPlain) w :=
  word_quotedOr_of_quotedText (isQuotedText_iff.1 h)

theorem word_of_isOperand {w : Text} (h : isOperand w = true) :
    Word (many quotedOrPlain) w := by
  unfold isOperand at h
  rw [Bool.or_eq_true, Bool.or_eq_true] at h
  rcases h with (h | h) | h
  · exact word_of_isPlain (.of_isIdentifier h)
  · exact word_of_isPlain (.of_isInteger h)
  · exact word_of_isQuotedText h

end Operand

-- ============================================================ conditions

namespace Condition

/-- What alternates are operands and operators. -/
theorem part_of_checkAlternation {condition : Text} {ps : List Part}
    (h : checkAlternation condition ps = .ok ()) :
    ∀ part ∈ ps, Operand.isOperand part.text = true ∨ ∃ o, part = .operator o := by
  fun_induction checkAlternation condition ps with
  | case1 => cases h
  | case2 first =>
    intro part hpart
    rw [List.mem_singleton.1 hpart]
    exact .inl (Operand.shape_of_checkShape h)
  | case3 => cases h
  | case4 => cases h
  | case5 first later hfirst o ih =>
    intro part hpart
    rcases List.mem_cons.1 hpart with rfl | hpart
    · exact .inl (Operand.shape_of_checkShape hfirst)
    · rcases List.mem_cons.1 hpart with rfl | hpart
      · exact .inr ⟨o, rfl⟩
      · exact ih h part hpart

/-- A condition that is accepted is quoted texts, and plain for the rest. -/
theorem word_of_check {condition : Text} (h : check condition = .ok ()) :
    Word (many Operand.quotedOrPlain) condition := by
  have hparts : ∀ part ∈ parts condition,
      Operand.isOperand part.text = true ∨ ∃ o, part = .operator o := by
    unfold check at h
    split at h
    · cases h
    · next first hfirst =>
      intro part hpart
      rw [hfirst] at hpart
      rw [List.mem_singleton.1 hpart]
      have hshape := Operand.shape_of_checkShape h
      exact .inl (by simp [Operand.isOperand, hshape])
    · exact part_of_checkAlternation h
  refine word_of_parts (fun w => Operand.word_of_isPlain) fun part hpart => ?_
  rcases hparts part hpart with hoperand | ⟨o, rfl⟩
  · exact Operand.word_of_isOperand hoperand
  · exact Operand.word_of_isPlain (.symbol o)

end Condition

-- =============================================================== outputs

namespace Output

theorem word_of_checkVariable {word segment : Text}
    (h : checkVariable word segment = .ok ()) : Word (many Operand.quotedOrPlain) word := by
  unfold checkVariable at h
  split at h
  · cases h
  · split at h
    · next hid => exact Operand.word_of_isPlain (.of_isIdentifier hid)
    · cases h

theorem word_of_checkPiece {segment piece : Text} (h : checkPiece segment piece = .ok ()) :
    Word (many Operand.quotedOrPlain) piece := by
  unfold checkPiece at h
  split at h
  · next hquoted => exact Operand.word_of_isQuotedText hquoted
  · exact word_of_checkVariable h

theorem word_of_checkSegment {alone : Bool} {segment : Text}
    (h : checkSegment alone segment = .ok ()) :
    Word (many Operand.quotedOrPlain) segment := by
  simp only [checkSegment] at h
  split at h
  · refine Text.word_of_splitTrimmed (fun w => Operand.word_of_isPlain)
      (show '+' ∉ _ by decide) fun piece hpiece => ?_
    exact word_of_checkPiece (Header.forM_eq_ok_iff.1 h piece hpiece)
  · split at h
    · next hquoted => exact Operand.word_of_isQuotedText hquoted
    · exact word_of_checkVariable h

/-- An output that is accepted is quoted texts, and plain for the rest. -/
theorem word_of_check {expression : Text} (h : check expression = .ok ()) :
    Word (many Operand.quotedOrPlain) expression := by
  refine Text.word_of_splitTrimmed (fun w => Operand.word_of_isPlain)
    (show ',' ∉ _ by decide) fun segment hsegment => ?_
  exact word_of_checkSegment (Header.forM_eq_ok_iff.1 h segment hsegment)

end Output

-- ================================================================= loops

/-- What is cut in plain words is plain. -/
theorem Text.IsPlain.of_cut? {ps : List Pattern} {s : Text} {ws : List Text}
    (h : Pattern.cut? ps s = some ws)
    (hapart : ∀ p ∈ ps, CharClass.areApart p.letters [.anyOf "\"()"] = true) :
    s.IsPlain := by
  obtain ⟨rfl, hall⟩ := Pattern.cut?_sound h
  clear h
  induction hall with
  | nil => exact List.forall_mem_nil _
  | cons hw _ ih =>
    obtain ⟨hp, hps⟩ := List.forall_mem_cons.1 hapart
    exact List.forall_mem_append.2 ⟨IsPlain.of_word hw hp, ih hps⟩

/-- A text is plain if its pieces are, and the separator is. -/
theorem Text.IsPlain.of_splitTrimmed {separator : Char} (hseparator : separator ∉ ("\"()" : Text))
    {s : Text} (h : ∀ piece ∈ splitTrimmed separator s, piece.IsPlain) : s.IsPlain := by
  refine isPlain_iff_word.2 (word_of_splitTrimmed (fun w => isPlain_iff_word.1) hseparator ?_)
  exact fun piece hpiece => isPlain_iff_word.1 (h piece hpiece)

/-- A condition is plain if its parts are. -/
theorem Text.IsPlain.of_parts {s : Text} (h : ∀ part ∈ Condition.parts s, part.text.IsPlain) :
    s.IsPlain := by
  refine isPlain_iff_word.2 (Condition.word_of_parts (fun w => isPlain_iff_word.1) ?_)
  exact fun part hpart => isPlain_iff_word.1 (h part hpart)

namespace Loop

theorem isPlain_of_checkInit {clause : Text} {scope : Scope}
    (h : checkInit clause = .ok scope) : clause.IsPlain := by
  unfold checkInit at h
  split at h
  · next hcut => exact .of_cut? hcut (by decide)
  · cases h

theorem isPlain_of_checkOperand {clause operand : Text} {scope : Scope}
    (h : checkOperand clause scope operand = .ok ()) : operand.IsPlain := by
  unfold checkOperand at h
  split at h
  · next hinteger => exact .of_isInteger hinteger
  · obtain ⟨_, hid, -⟩ := Header.bind_eq_ok_iff.1 h
    exact .of_isIdentifier (Operand.shape_of_checkShape hid)

theorem isPlain_of_checkCondition {clause : Text} {scope : Scope}
    (h : checkCondition clause scope = .ok ()) : clause.IsPlain := by
  unfold checkCondition at h
  split at h
  · next left o right hparts =>
    split at h
    · obtain ⟨_, hleft, hright⟩ := Header.bind_eq_ok_iff.1 h
      refine .of_parts ?_
      rw [hparts]
      simpa using ⟨isPlain_of_checkOperand hleft, Text.IsPlain.symbol o,
        isPlain_of_checkOperand hright⟩
    · cases h
  · cases h
  · cases h

theorem isPlain_of_checkUpdate {clause : Text} {scope : Scope}
    (h : checkUpdate clause scope = .ok ()) : clause.IsPlain := by
  unfold checkUpdate at h
  split at h
  · next hcut => exact .of_cut? hcut (by decide)
  · cases h

/-- A loop header that is accepted is plain. -/
theorem isPlain_of_check {header : Text} (h : check header = .ok ()) : header.IsPlain := by
  unfold check at h
  split at h
  · next init condition update hclauses =>
    obtain ⟨scope, hinit, h⟩ := Header.bind_eq_ok_iff.1 h
    obtain ⟨_, hcondition, hupdate⟩ := Header.bind_eq_ok_iff.1 h
    refine .of_splitTrimmed (show ';' ∉ _ by decide) ?_
    rw [hclauses]
    simpa using ⟨isPlain_of_checkInit hinit, isPlain_of_checkCondition hcondition,
      isPlain_of_checkUpdate hupdate⟩
  · cases h

end Loop

end Aula
