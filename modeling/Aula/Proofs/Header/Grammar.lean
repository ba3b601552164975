/-
The grammars of the texts in parentheses.

The checks of conditions, outputs and loop headers cut a text up, trim the
pieces and look at each. Here is what they are about, as patterns: what a
condition, an output or a clause of a loop is made of, from left to right,
with blanks wherever they may stand. A pattern is a set of words, so these
say nothing of cutting or trimming, or of where quotes begin and end.

# From checks to patterns

Two facts carry over what the checks do with a piece. A piece that is
trimmed has a shape exactly if it had it with blanks around
(`Pattern.word_padded_iff`). And a piece is accepted on its own exactly if
it is a word of `name` or `operand` (`Operand.check_eq_ok_iff_operand`).

# What cutting passes over

Cutting stops at some characters, but not inside quotes. A text that is
made of quoted texts and of other characters than those is passed over as a
whole (`Operand.quotedOr`); that is what every piece of a header is like.
-/
import Aula.Proofs.Pattern.Letters
import Aula.Proofs.Pattern.Pieces
import Aula.Proofs.Text.Trim
import Aula.Operand
import Aula.Operator

namespace Aula

open Pattern (Word one many opt oneOrMore)
open CharClass (areApart)

namespace Grammar

open Shape (blanks gap identifier name integer)
open Operand (quotedText)

-- ============================================================ conditions

/-- Some shape, with any blanks around it. -/
def padded (p : Pattern) : Pattern := blanks ++ p ++ blanks

/-- An operator that compares. -/
def comparing : Pattern := "==" ||| "!=" ||| "<=" ||| ">=" ||| "<" ||| ">"

/-- An operator. -/
def operator : Pattern := comparing ||| "&&" ||| "||"

/-- What may stand on either side of an operator: a variable, a whole
number or a quoted text. -/
def operand : Pattern := name ||| integer ||| quotedText

/-- A condition: a variable, or at least two operands with an operator
between each two of them. -/
def condition : Pattern :=
  padded name ||| padded operand ++ oneOrMore (operator ++ padded operand)

-- =============================================================== outputs

/-- What may be joined to an output: a quoted text or a variable. -/
def piece : Pattern := quotedText ||| name

/-- A segment of an output: a variable, or at least two pieces joined by
plus signs. -/
def segment : Pattern :=
  padded name ||| padded piece ++ oneOrMore ("+" ++ padded piece)

/-- Segments with commas between them. -/
def segments : Pattern := segment ++ many ("," ++ segment)

-- ================================================================= loops

/-- The first value of a loop's variable. -/
def firstValue : Pattern := blanks ++ "=" ++ blanks ++ integer

/-- The first clause of a loop: it declares a whole number. -/
def declaring (declared : Pattern) : Pattern := "ent" ++ gap ++ declared ++ firstValue

/-- The second clause of a loop: it compares two operands. -/
def comparison (left right : Pattern) : Pattern := left ++ padded comparing ++ right

/-- How a variable is stepped: by one, or by a whole number. -/
def step : Pattern := "++" ||| "--" ||| one .arithmetic ++ "=" ++ blanks ++ integer

/-- The third clause of a loop: it steps a variable. -/
def update (stepped : Pattern) : Pattern := stepped ++ (blanks ++ step)

end Grammar

-- ============================================================== blanks

namespace Pattern

open Grammar (padded)

/-- The words of blanks are the texts of blanks. -/
theorem word_blanks_iff {w : Text} : Word Shape.blanks w ↔ ∀ c ∈ w, isBlank c = true :=
  Rule.word_many_one_iff

/-- A shape with blanks around it has its words with blanks around them. -/
theorem word_padded_append_iff {p : Pattern} {w : Text} :
    Word (padded p) w ↔ ∃ a u b, w = a ++ (u ++ b) ∧ (∀ c ∈ a, isBlank c = true)
      ∧ Word p u ∧ ∀ c ∈ b, isBlank c = true := by
  unfold padded
  rw [word_append_assoc]
  simp only [word_append_iff, word_blanks_iff]
  constructor
  · intro h
    obtain ⟨a, _, rfl, ha, u, b, rfl, hu, hb⟩ := h
    exact ⟨a, u, b, rfl, ha, hu, hb⟩
  · intro h
    obtain ⟨a, u, b, rfl, ha, hu, hb⟩ := h
    exact ⟨a, _, rfl, ha, u, b, rfl, hu, hb⟩

/-- A word that cannot begin or end with a blank is trimmed already. -/
theorem Word.trim_eq {p : Pattern} {w : Text} (h : Word p w)
    (hfirst : areApart p.first [.blank] = true)
    (hlast : areApart p.mirror.first [.blank] = true) : w.trim = w :=
  Text.trim_eq_self (h.head?_not_has hfirst) (h.getLast?_not_has hlast)

/-- Blanks around a shape are what trimming takes away. -/
theorem word_padded_iff {p : Pattern} (hfirst : areApart p.first [.blank] = true)
    (hlast : areApart p.mirror.first [.blank] = true) {w : Text} :
    Word (padded p) w ↔ Word p w.trim := by
  rw [word_padded_append_iff]
  constructor
  · intro h
    obtain ⟨a, u, b, rfl, ha, hu, hb⟩ := h
    rwa [Text.trim_blank_append ha, Text.trim_append_blank u hb, hu.trim_eq hfirst hlast]
  · intro h
    obtain ⟨a, b, heq, ha, hb⟩ := w.exists_eq_trim
    exact ⟨a, w.trim, b, heq, ha, h, hb⟩

end Pattern

-- ============================================================= operands

namespace Operand

open Shape (name identifier integer)
open Grammar (operand piece padded)

/-- A deterministic shape covers its words, and no other text. -/
theorem covers_eq_true_iff {p : Pattern} (hdet : p.isDeterministic [] = true) {s : Text} :
    p.covers s = true ↔ Word p s := by
  constructor
  · exact Rule.word_of_covers
  · intro h
    exact decide_eq_true (Pattern.scan_eq_length hdet h)

theorem isIdentifier_iff {s : Text} : isIdentifier s = true ↔ Word identifier s :=
  covers_eq_true_iff (by decide)

theorem isInteger_iff {s : Text} : isInteger s = true ↔ Word integer s :=
  covers_eq_true_iff (by decide)

theorem isQuotedText_iff {s : Text} : isQuotedText s = true ↔ Word quotedText s :=
  covers_eq_true_iff (by decide)

/-- A variable is named by an identifier that is not reserved. -/
theorem word_name_iff {w : Text} :
    Word name w ↔ Keyword.isReserved w = false ∧ isIdentifier w = true := by
  rw [isIdentifier_iff, Bool.eq_false_iff, Keyword.isReserved, Ne, List.contains_iff_mem]
  constructor
  · intro h
    cases h with
    | except h hw => exact ⟨hw, h⟩
  · intro h
    obtain ⟨hw, h⟩ := h
    exact .except h hw

theorem identifier_of_name {w : Text} (h : Word name w) : Word identifier w :=
  isIdentifier_iff.1 (word_name_iff.1 h).2

/-- Reserved words are neither numbers nor quoted. -/
theorem reserved_not_literal : ∀ w ∈ Keyword.reserved,
    isInteger w = false ∧ isQuotedText w = false := by
  decide

theorem isReserved_eq_false {w : Text} (h : isInteger w = true ∨ isQuotedText w = true) :
    Keyword.isReserved w = false := by
  rw [Bool.eq_false_iff, Keyword.isReserved, Ne, List.contains_iff_mem]
  intro hmem
  obtain ⟨hinteger, hquoted⟩ := reserved_not_literal w hmem
  rcases h with h | h
  · rw [hinteger] at h
    cases h
  · rw [hquoted] at h
    cases h

/-- An operand is a text of the shape of one that is not reserved. -/
theorem word_operand_iff {w : Text} :
    Word operand w ↔ Keyword.isReserved w = false ∧ isOperand w = true := by
  unfold operand isOperand
  rw [Pattern.word_or_iff, Pattern.word_or_iff, word_name_iff, ← isInteger_iff,
    ← isQuotedText_iff, Bool.or_eq_true, Bool.or_eq_true]
  constructor
  · intro h
    rcases h with (h | h) | h
    · exact ⟨h.1, .inl (.inl h.2)⟩
    · exact ⟨isReserved_eq_false (.inl h), .inl (.inr h)⟩
    · exact ⟨isReserved_eq_false (.inr h), .inr h⟩
  · intro h
    obtain ⟨hw, h⟩ := h
    rcases h with (h | h) | h
    · exact .inl (.inl ⟨hw, h⟩)
    · exact .inl (.inr h)
    · exact .inr h

/-- A check of a shape accepts what has the shape and is not reserved. -/
theorem checkShape_eq_ok_iff {shape : Text → Bool} {word context : Text} :
    checkShape shape word context = .ok ()
      ↔ Keyword.isReserved word = false ∧ shape word = true := by
  unfold checkShape
  by_cases hreserved : Keyword.isReserved word = true
  · simp [hreserved]
  · by_cases hshape : shape word = true
    · simp [hreserved, hshape]
    · simp [hreserved, hshape]

/-- Variables are accepted where a variable has to stand. -/
theorem checkIdentifier_eq_ok_iff_name {word context : Text} :
    checkIdentifier word context = .ok () ↔ Word name word :=
  checkShape_eq_ok_iff.trans word_name_iff.symm

/-- Operands are accepted where an operand has to stand. -/
theorem check_eq_ok_iff_operand {word context : Text} :
    check word context = .ok () ↔ Word operand word :=
  checkShape_eq_ok_iff.trans word_operand_iff.symm

-- ================================================ quoted or without marks

/-- A quoted text, or a character that is none of `marks`. -/
def quotedOr (marks : Text) : Pattern := quotedText ||| one (.noneOf marks)

variable {marks : Text}

/-- A text without marks is passed over. -/
theorem word_quotedOr_of_not_mem {w : Text} (h : ∀ c ∈ w, c ∉ marks) :
    Word (many (quotedOr marks)) w := by
  have hchars : Word (many (one (.noneOf marks))) w :=
    Rule.word_many_one_iff.2 fun c hc => CharClass.has_noneOf.2 (h c hc)
  exact hchars.many_mono fun u hu => .second hu

/-- A word whose letters are no marks is one. -/
theorem word_quotedOr_of_letters {p : Pattern} {w : Text} (h : Word p w)
    (hapart : areApart p.letters [.anyOf marks] = true) : Word (many (quotedOr marks)) w :=
  word_quotedOr_of_not_mem (h.not_mem hapart)

/-- A quoted text is passed over. -/
theorem word_quotedOr_of_quotedText {w : Text} (h : Word quotedText w) :
    Word (many (quotedOr marks)) w :=
  Word.many_single (.first h)

/-- A quoted text is a text without quotes, between quotes. -/
theorem word_quotedText_iff {w : Text} :
    Word quotedText w ↔ ∃ inner, w = '"' :: (inner ++ ['"']) ∧ '"' ∉ inner := by
  have hinner : ∀ inner : Text, Word (many (one (.noneOf "\""))) inner ↔ '"' ∉ inner := by
    intro inner
    rw [Rule.word_many_one_iff]
    constructor
    · exact fun h hmem => CharClass.has_noneOf.1 (h _ hmem) (List.mem_singleton_self _)
    · intro h c hc
      refine CharClass.has_noneOf.2 fun hmem => h ?_
      obtain rfl : c = '"' := List.mem_singleton.1 hmem
      exact hc
  simp only [quotedText, Pattern.word_append_iff, Pattern.word_text_iff]
  constructor
  · intro h
    obtain ⟨_, _, rfl, ⟨_, inner, rfl, rfl, h⟩, rfl⟩ := h
    exact ⟨inner, rfl, (hinner inner).1 h⟩
  · intro h
    obtain ⟨inner, rfl, h⟩ := h
    exact ⟨'"' :: inner, ['"'], rfl, ⟨['"'], inner, rfl, rfl, (hinner inner).2 h⟩, rfl⟩

/-- So are blanks, where no mark is blank. -/
theorem word_quotedOr_of_blank (hblank : areApart [.blank] [.anyOf marks] = true) {a : Text}
    (ha : ∀ c ∈ a, isBlank c = true) : Word (many (quotedOr marks)) a :=
  word_quotedOr_of_letters (Pattern.word_blanks_iff.2 ha) hblank

/-- So is a shape with blanks around it if its words are. -/
theorem word_quotedOr_of_padded (hblank : areApart [.blank] [.anyOf marks] = true)
    {p : Pattern} (hp : ∀ u, Word p u → Word (many (quotedOr marks)) u) {w : Text}
    (h : Word (padded p) w) : Word (many (quotedOr marks)) w := by
  obtain ⟨a, u, b, rfl, ha, hu, hb⟩ := Pattern.word_padded_append_iff.1 h
  have hbehind := (hp u hu).many_append (word_quotedOr_of_blank hblank hb)
  exact (word_quotedOr_of_blank hblank ha).many_append hbehind

/-- So is a text that is passed over when it is trimmed. -/
theorem word_quotedOr_of_trim (hblank : areApart [.blank] [.anyOf marks] = true) {w : Text}
    (h : Word (many (quotedOr marks)) w.trim) : Word (many (quotedOr marks)) w := by
  obtain ⟨a, b, heq, ha, hb⟩ := w.exists_eq_trim
  rw [heq]
  have hbehind := h.many_append (word_quotedOr_of_blank hblank hb)
  exact (word_quotedOr_of_blank hblank ha).many_append hbehind

end Operand

end Aula
