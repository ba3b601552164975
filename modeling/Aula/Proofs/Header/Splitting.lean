/-
Splitting is the only way to take a text apart at its separators.

Whether a character stands inside quotes depends on the quotes before it,
and on nothing else (`Text.quotedBehind`). A piece of a text that is split
begins outside quotes, so the quotes before a character of it are those in
the piece. Hence what splitting leaves can be said without splitting
(`Text.IsSplit`): the pieces make up the text; every one but the last closes
the quotes that it opens; and a separator in a piece stands inside quotes.

# One relation for both directions

`Text.Pieces` says the same from the front, one piece after the other, and
of texts that begin inside quotes too. What is split is in it, by induction
along splitting (`pieces_splitFrom`), and what is in it is found again by
splitting (`Pieces.splitFrom_eq`), since splitting passes over a piece up to
the separator behind it (`splitFrom_append`).

Which texts are passed over is said by `Text.IsClear`, of any marks at which
some cutting stops. The texts of quoted texts and unmarked characters, of
which the grammars of headers are made, are the ones with all their quotes
closed (`Operand.isClear_of_word`).
-/
import Aula.Proofs.Header.Cutting
import Aula.Proofs.Header.Grammar
import Mathlib.Algebra.Ring.Parity

namespace Aula

namespace Text

-- ================================================================ quotes

/-- Whether what stands behind a text is inside quotes, where `quoted` tells
whether the text begins inside quotes. -/
def quotedBehind : (quoted : Bool) → Text → Bool
  | quoted, [] => quoted
  | quoted, c :: s => quotedBehind (if c = '"' then !quoted else quoted) s

theorem quotedBehind_quote (quoted : Bool) (s : Text) :
    quotedBehind quoted ('"' :: s) = quotedBehind (!quoted) s := rfl

theorem quotedBehind_cons {c : Char} (hc : c ≠ '"') (quoted : Bool) (s : Text) :
    quotedBehind quoted (c :: s) = quotedBehind quoted s := by
  rw [quotedBehind, if_neg hc]

theorem quotedBehind_append (quoted : Bool) (s t : Text) :
    quotedBehind quoted (s ++ t) = quotedBehind (quotedBehind quoted s) t := by
  induction s generalizing quoted with
  | nil => rfl
  | cons c s ih => exact ih _

/-- A text that closes the quotes it opens has an even number of them, and
no other text has. -/
theorem quotedBehind_eq_iff (quoted : Bool) {s : Text} :
    quotedBehind quoted s = quoted ↔ Even (s.count '"') := by
  induction s generalizing quoted with
  | nil => simp [quotedBehind]
  | cons c s ih =>
    by_cases hc : c = '"'
    · subst hc
      rw [quotedBehind_quote, List.count_cons_self, Nat.even_add_one, ← ih (!quoted)]
      cases quoted <;> simp
    · rw [quotedBehind_cons hc, List.count_cons_of_ne hc, ih]

/-- Behind an odd number of quotes it is the other way round. -/
theorem quotedBehind_eq_true_iff {s : Text} :
    quotedBehind false s = true ↔ ¬ Even (s.count '"') := by
  rw [← quotedBehind_eq_iff false, Bool.not_eq_false]

/-- A text without quotes changes nothing for what stands behind it. -/
theorem quotedBehind_of_not_mem {s : Text} (h : '"' ∉ s) (quoted : Bool) :
    quotedBehind quoted s = quoted := by
  rw [quotedBehind_eq_iff, List.count_eq_zero_of_not_mem h]
  exact Even.zero

-- ========================================================= passing over

variable {marks : Text} {quoted : Bool}

/-- The marks in the text stand inside quotes. -/
def IsClear (marks : Text) (quoted : Bool) (w : Text) : Prop :=
  ∀ before c after, w = before ++ c :: after → c ∈ marks → quotedBehind quoted before = true

namespace IsClear

theorem nil : IsClear marks quoted [] := by
  intro before c after heq
  simp at heq

/-- A character in front is a mark inside quotes, or none. -/
theorem cons {c : Char} {w : Text} (hc : c ∈ marks → quoted = true)
    (h : IsClear marks (if c = '"' then !quoted else quoted) w) :
    IsClear marks quoted (c :: w) := by
  intro before d after heq hd
  cases before with
  | nil =>
    obtain ⟨rfl, rfl⟩ := List.cons.inj heq
    exact hc hd
  | cons b before =>
    obtain ⟨rfl, rfl⟩ := List.cons.inj heq
    exact h before d after rfl hd

theorem head {c : Char} {w : Text} (h : IsClear marks quoted (c :: w)) (hc : c ∈ marks) :
    quoted = true :=
  h [] c w rfl hc

theorem tail {c : Char} {w : Text} (h : IsClear marks quoted (c :: w)) :
    IsClear marks (if c = '"' then !quoted else quoted) w := by
  intro before d after heq hd
  exact h (c :: before) d after (by rw [heq]; rfl) hd

theorem append {u v : Text} (hu : IsClear marks quoted u)
    (hv : IsClear marks (quotedBehind quoted u) v) : IsClear marks quoted (u ++ v) := by
  induction u generalizing quoted with
  | nil => exact hv
  | cons c u ih => exact .cons hu.head (ih hu.tail hv)

/-- A text without marks is clear. -/
theorem of_not_mem {w : Text} (h : ∀ c ∈ w, c ∉ marks) : IsClear marks quoted w := by
  rintro before c after rfl hc
  exact absurd hc (h c (by simp))

/-- What stands inside quotes from its beginning to its end is clear. -/
theorem of_quoted {w : Text} (h : '"' ∉ w) : IsClear marks true w := by
  intro before c after heq _
  refine quotedBehind_of_not_mem (fun hmem => h ?_) true
  rw [heq]
  exact List.mem_append_left _ hmem

end IsClear

end Text

namespace Operand

open Pattern (Word many)
open Text (IsClear quotedBehind quotedBehind_quote quotedBehind_cons quotedBehind_append
  quotedBehind_of_not_mem)

/-- A text of quoted texts and of characters that are no marks has its marks
inside quotes, and closes its quotes. -/
theorem isClear_of_word {marks : Text} (hmarks : '"' ∉ marks) {w : Text}
    (h : Word (many (quotedOr ('"' :: marks))) w) :
    IsClear marks false w ∧ quotedBehind false w = false := by
  generalize hm : many (quotedOr ('"' :: marks)) = m at h
  induction h with
  | text | one | seq | first | second | except => cases hm
  | stop => exact ⟨.nil, rfl⟩
  | @step p u v hu _ _ ih =>
    cases hm
    obtain ⟨hv, hclosed⟩ := ih rfl
    suffices hpiece : IsClear marks false u ∧ quotedBehind false u = false by
      rw [quotedBehind_append, hpiece.2]
      refine ⟨hpiece.1.append ?_, hclosed⟩
      rwa [hpiece.2]
    cases hu with
    | first hquoted =>
      obtain ⟨inner, rfl, hinner⟩ := word_quotedText_iff.1 hquoted
      have hinside := quotedBehind_of_not_mem hinner true
      have hend : IsClear marks (quotedBehind true inner) ['"'] := by
        rw [hinside]
        exact .cons (fun _ => rfl) .nil
      refine ⟨.cons (fun hc => absurd hc hmarks) (.append (.of_quoted hinner) hend), ?_⟩
      rw [quotedBehind_quote, Bool.not_false, quotedBehind_append, hinside]
      rfl
    | second hplain =>
      cases hplain with
      | @one _ c hc =>
        obtain ⟨hquote, hmark⟩ := not_or.1 (mt List.mem_cons.2 (CharClass.has_noneOf.1 hc))
        exact ⟨.cons (fun hmem => absurd hmem hmark) .nil, quotedBehind_cons hquote false []⟩

end Operand

namespace Text

variable {separator : Char} {quoted : Bool}

-- =============================================================== splitting

/-- Splitting passes over a text whose separators stand inside quotes. -/
theorem splitFrom_append {w : Text} (h : IsClear [separator] quoted w) (t : Text) :
    splitFrom separator quoted (w ++ t)
      = (splitFrom separator (quotedBehind quoted w) t).modifyHead (w ++ ·) := by
  induction w generalizing quoted with
  | nil => exact (congrFun List.modifyHead_id _).symm
  | cons c w ih =>
    have hrest := ih h.tail
    by_cases hc : c = '"'
    · subst hc
      rw [if_pos rfl] at hrest
      rw [List.cons_append, splitFrom, if_pos rfl, hrest, List.modifyHead_modifyHead]
      rfl
    · have hskip : ¬ (c = separator ∧ quoted = false) := by
        rintro ⟨rfl, hquoted⟩
        rw [h.head (List.mem_singleton_self c)] at hquoted
        cases hquoted
      rw [if_neg hc] at hrest
      rw [List.cons_append, splitFrom, if_neg hc, if_neg hskip, hrest,
        List.modifyHead_modifyHead, quotedBehind_cons hc]
      rfl

/-- What splitting leaves: pieces that are clear, each of them but the last
with all its quotes closed. -/
inductive Pieces (separator : Char) : (quoted : Bool) → List Text → Prop where
  | last {quoted : Bool} {w : Text} (hw : IsClear [separator] quoted w) :
      Pieces separator quoted [w]
  | more {quoted : Bool} {w : Text} {ws : List Text} (hw : IsClear [separator] quoted w)
      (hclosed : quotedBehind quoted w = false) (hws : Pieces separator false ws) :
      Pieces separator quoted (w :: ws)

namespace Pieces

/-- There is always one. -/
theorem ne_nil {ws : List Text} (h : Pieces separator quoted ws) : ws ≠ [] := by
  cases h with
  | last | more => exact List.cons_ne_nil _ _

/-- A character in front of the first piece. -/
theorem modifyHead {c : Char} {ws : List Text} (hc : c = separator → quoted = true)
    (h : Pieces separator (if c = '"' then !quoted else quoted) ws) :
    Pieces separator quoted (ws.modifyHead (c :: ·)) := by
  have hmark : c ∈ [separator] → quoted = true := fun hmem => hc (List.mem_singleton.1 hmem)
  cases h with
  | last hw => exact .last (hw.cons hmark)
  | more hw hclosed hws => exact .more (hw.cons hmark) hclosed hws

end Pieces

/-- Splitting leaves such pieces. -/
theorem pieces_splitFrom (hseparator : separator ≠ '"') (quoted : Bool) (t : Text) :
    Pieces separator quoted (splitFrom separator quoted t) := by
  fun_induction splitFrom separator quoted t with
  | case1 => exact .last .nil
  | case2 quoted s ih =>
    refine .modifyHead (fun hc => absurd hc.symm hseparator) ?_
    rwa [if_pos rfl]
  | case3 quoted c s hc hsep ih =>
    rw [hsep.2]
    exact .more .nil rfl ih
  | case4 quoted c s hc hsep ih =>
    refine .modifyHead (fun heq => ?_) ?_
    · rw [← Bool.not_eq_false]
      exact fun hquoted => hsep ⟨heq, hquoted⟩
    · rwa [if_neg hc]

/-- Such pieces are found again. -/
theorem Pieces.splitFrom_eq (hseparator : separator ≠ '"') {ws : List Text}
    (h : Pieces separator quoted ws) :
    splitFrom separator quoted ([separator].intercalate ws) = ws := by
  induction h with
  | @last quoted w hw =>
    have happend := splitFrom_append hw []
    rw [List.append_nil] at happend
    rw [List.intercalate_singleton, happend]
    simp [splitFrom]
  | @more quoted w ws hw hclosed hws ih =>
    obtain ⟨next, later, rfl⟩ := List.exists_cons_of_ne_nil hws.ne_nil
    rw [List.intercalate_cons_cons, List.append_assoc, splitFrom_append hw, hclosed,
      List.singleton_append, splitFrom, if_neg hseparator, if_pos ⟨rfl, rfl⟩, ih]
    simp

-- ===================================================== the only such list

/-- The text is taken apart at its separators outside quotes. -/
structure IsSplit (separator : Char) (t : Text) (pieces : List Text) : Prop where
  /-- The pieces, with a separator between each two of them, are the
  text. -/
  joined : [separator].intercalate pieces = t
  /-- Each of them but the last has an even number of quotes. -/
  closed : ∀ piece ∈ pieces.dropLast, Even (piece.count '"')
  /-- No separator in a piece has an even number of quotes before it. -/
  clear : ∀ piece ∈ pieces, ∀ before after, piece = before ++ separator :: after →
    ¬ Even (before.count '"')

/-- In a text that begins outside quotes, it is the number of quotes that
tells whether a separator stands inside. -/
theorem isClear_iff {w : Text} :
    IsClear [separator] false w
      ↔ ∀ before after, w = before ++ separator :: after → ¬ Even (before.count '"') := by
  simp only [IsClear, List.mem_singleton, quotedBehind_eq_true_iff]
  constructor
  · exact fun h before after heq => h before separator after heq rfl
  · rintro h before c after heq rfl
    exact h before after heq

/-- From the front it is the same of a text that begins outside quotes. -/
theorem pieces_iff {pieces : List Text} :
    Pieces separator false pieces
      ↔ pieces ≠ [] ∧ IsSplit separator ([separator].intercalate pieces) pieces := by
  constructor
  · intro h
    generalize hq : false = q at h
    induction h with
    | last hw =>
      subst hq
      refine ⟨List.cons_ne_nil _ _, rfl, List.forall_mem_nil _, ?_⟩
      exact List.forall_mem_singleton.2 (isClear_iff.1 hw)
    | more hw hclosed hws ih =>
      subst hq
      obtain ⟨hne, -, hlater, hclears⟩ := ih rfl
      refine ⟨List.cons_ne_nil _ _, rfl, ?_, ?_⟩
      · rw [List.dropLast_cons_of_ne_nil hne]
        exact List.forall_mem_cons.2 ⟨(quotedBehind_eq_iff false).1 hclosed, hlater⟩
      · exact List.forall_mem_cons.2 ⟨isClear_iff.1 hw, hclears⟩
  · intro h
    obtain ⟨hne, -, hclosed, hclears⟩ := h
    induction pieces with
    | nil => exact absurd rfl hne
    | cons w ws ih =>
      obtain ⟨hw, hws⟩ := List.forall_mem_cons.1 hclears
      by_cases hlast : ws = []
      · subst hlast
        exact .last (isClear_iff.2 hw)
      · rw [List.dropLast_cons_of_ne_nil hlast] at hclosed
        obtain ⟨hclosed, hlater⟩ := List.forall_mem_cons.1 hclosed
        exact .more (isClear_iff.2 hw) ((quotedBehind_eq_iff false).2 hclosed)
          (ih hlast hlater hws)

/-- A text is split into the pieces that it is taken apart into at its
separators outside quotes. -/
theorem isSplit_iff (hseparator : separator ≠ '"') {t : Text} {pieces : List Text} :
    pieces ≠ [] ∧ IsSplit separator t pieces ↔ pieces = split separator t := by
  constructor
  · intro h
    obtain ⟨hne, hsplit⟩ := h
    have hjoined := hsplit.joined
    subst hjoined
    exact ((pieces_iff.2 ⟨hne, hsplit⟩).splitFrom_eq hseparator).symm
  · rintro rfl
    obtain ⟨hne, hsplit⟩ := pieces_iff.1 (pieces_splitFrom hseparator false t)
    rw [intercalate_splitFrom] at hsplit
    exact ⟨hne, hsplit⟩

/-- A piece is not split again. -/
theorem split_of_mem_split (hseparator : separator ≠ '"') {t piece : Text}
    (h : piece ∈ split separator t) : split separator piece = [piece] := by
  obtain ⟨-, hsplit⟩ := (isSplit_iff hseparator).2 (Eq.refl (split separator t))
  refine ((isSplit_iff hseparator).1 ⟨List.cons_ne_nil _ _, ?_⟩).symm
  exact ⟨List.intercalate_singleton .., List.forall_mem_nil _,
    List.forall_mem_singleton.2 (hsplit.clear piece h)⟩

/-- A quote is never taken for a separator. -/
theorem split_quote (t : Text) : split '"' t = [t] := by
  unfold split
  generalize false = quoted
  fun_induction splitFrom '"' quoted t with
  | case1 => rfl
  | case2 quoted s ih => rw [ih]; rfl
  | case3 quoted c s hc hsep ih => exact absurd hsep.1 hc
  | case4 quoted c s hc hsep ih => rw [ih]; rfl

/-- A text is taken apart at its separators outside quotes in one way, and
that is how it is split; the pieces have nothing to be split at any more. At
quotes nothing is split. -/
theorem split_unique (separator : Char) (t : Text) :
    (separator ≠ '"' →
        (∀ pieces, pieces ≠ [] ∧ IsSplit separator t pieces ↔ pieces = split separator t)
        ∧ ∀ piece ∈ split separator t, split separator piece = [piece])
      ∧ split '"' t = [t] := by
  refine ⟨fun hseparator => ⟨fun pieces => ?_, fun piece hpiece => ?_⟩, split_quote t⟩
  · exact isSplit_iff hseparator
  · exact split_of_mem_split hseparator hpiece

/-- Separators of two bytes each, one of them in quotes and one behind a
quote that is never closed. -/
theorem split_unique_of_open_quote :
    'é' ≠ '"'
      ∧ (∀ pieces, pieces ≠ [] ∧ IsSplit 'é' "a\"é\"éé\"bé" pieces
          ↔ pieces = ["a\"é\"", "", "\"bé"])
      ∧ split 'é' "\"bé" = ["\"bé"] := by
  have hsplit : split 'é' "a\"é\"éé\"bé" = ["a\"é\"", "", "\"bé"] := by decide
  obtain ⟨hunique, hagain⟩ := (split_unique 'é' "a\"é\"éé\"bé").1 (by decide)
  rw [hsplit] at hunique hagain
  exact ⟨by decide, hunique, hagain _ (by decide)⟩

end Text

end Aula
