/-
Texts between separators are found again.

Splitting stops at a separator, but not inside quotes. Where the pieces of a
list hold the separator only inside quotes, and close the quotes that they
open, the list is split into the same pieces (`split_intercalate`). So
splitting decides the shape of a list: it has it exactly if each of the
pieces has its shape (`word_list_iff_split`).

Blanks at the ends of a text are blanks at the ends of its first and its
last piece, so it does not matter whether a list is trimmed before it is
split into pieces that are trimmed (`splitTrimmed_trim`). A text without
quotes is split at every separator in it (`split_eq_splitOn`).
-/
import Aula.Proofs.Header.Splitting

namespace Aula.Text

open Pattern (Word many oneOrMore)
open Operand (quotedOr)

variable {separator : Char}

-- ============================================================ no separator

/-- A text that splitting passes over is a single piece. -/
theorem split_of_word {w : Text} (h : Word (many (quotedOr ['"', separator])) w) :
    split separator w = [w] := by
  by_cases hseparator : separator = '"'
  · subst hseparator
    exact split_quote w
  · obtain ⟨hclear, -⟩ := Operand.isClear_of_word (by simpa using Ne.symm hseparator) h
    have hpiece := (Pieces.last hclear).splitFrom_eq hseparator
    rwa [List.intercalate_singleton] at hpiece

-- ================================================================== lists

/-- Pieces that splitting passes over are found again. -/
theorem split_intercalate (hseparator : separator ≠ '"') {pieces : List Text}
    (hne : pieces ≠ [])
    (h : ∀ piece ∈ pieces, Word (many (quotedOr ['"', separator])) piece) :
    split separator ([separator].intercalate pieces) = pieces := by
  have hclear : ∀ piece ∈ pieces,
      IsClear [separator] false piece ∧ quotedBehind false piece = false :=
    fun piece hpiece => Operand.isClear_of_word (by simpa using hseparator.symm) (h piece hpiece)
  refine Pieces.splitFrom_eq hseparator ?_
  clear h
  induction pieces with
  | nil => exact absurd rfl hne
  | cons piece pieces ih =>
    obtain ⟨⟨hpiece, hclosed⟩, hlater⟩ := List.forall_mem_cons.1 hclear
    by_cases hlast : pieces = []
    · subst hlast
      exact .last hpiece
    · exact .more hpiece hclosed (ih hlast hlater)

section Pieces

variable (hseparator : separator ≠ '"') {p : Pattern}
  (hpass : ∀ u, Word p u → Word (many (quotedOr ['"', separator])) u)
include hseparator hpass

/-- A text is a list exactly if what it splits into are pieces of one. -/
theorem word_list_iff_split {t : Text} :
    Word (p ++ many (.text [separator] ++ p)) t ↔ ∀ u ∈ split separator t, Word p u := by
  rw [Pattern.word_list_iff]
  constructor
  · intro h
    obtain ⟨us, hne, hus, rfl⟩ := h
    rwa [split_intercalate hseparator hne fun u hu => hpass u (hus u hu)]
  · intro h
    exact ⟨split separator t, splitFrom_ne_nil separator false t, h,
      (intercalate_splitFrom false t).symm⟩

/-- It has a separator exactly if it splits into several pieces. -/
theorem word_joined_iff_split {t : Text} :
    Word (p ++ oneOrMore (.text [separator] ++ p)) t
      ↔ 1 < (split separator t).length ∧ ∀ u ∈ split separator t, Word p u := by
  rw [Pattern.word_joined_iff]
  constructor
  · intro h
    obtain ⟨us, hlength, hus, rfl⟩ := h
    have hne := List.ne_nil_of_length_pos (Nat.zero_lt_of_lt hlength)
    rw [split_intercalate hseparator hne fun u hu => hpass u (hus u hu)]
    exact ⟨hlength, hus⟩
  · intro h
    exact ⟨split separator t, h.1, h.2, (intercalate_splitFrom false t).symm⟩

end Pieces

/-- A text that is not split is the only piece. -/
theorem split_of_length {s : Text} (h : ¬ 1 < (split separator s).length) :
    split separator s = [s] := by
  have hjoin : [separator].intercalate (splitFrom separator false s) = s :=
    intercalate_splitFrom false s
  obtain ⟨piece, pieces, hpieces⟩ :=
    List.exists_cons_of_ne_nil (splitFrom_ne_nil separator false s)
  unfold split at h ⊢
  rw [hpieces] at hjoin h ⊢
  cases pieces with
  | nil => rw [← hjoin, List.intercalate_singleton]
  | cons next pieces => simp at h

/-- The same of a text that is split into trimmed pieces. -/
theorem splitTrimmed_of_length {s : Text} (h : ¬ 1 < (splitTrimmed separator s).length) :
    splitTrimmed separator s = [s.trim] := by
  unfold splitTrimmed at h ⊢
  rw [List.length_map] at h
  rw [split_of_length h, List.map_singleton]

-- ================================================================= blanks

/-- Trimmed pieces are trimmed. -/
theorem trim_of_mem_splitTrimmed {piece s : Text} (h : piece ∈ splitTrimmed separator s) :
    piece.trim = piece := by
  obtain ⟨u, -, rfl⟩ := List.mem_map.1 h
  exact u.trim_trim

/-- A character in front of the first piece is there whatever is behind the
last one. -/
theorem exists_modifyHead (c : Char) {l m pieces : List Text} {last b : Text}
    (hl : l = pieces ++ [last]) (hm : m = pieces ++ [last ++ b]) :
    ∃ pieces' last', l.modifyHead (c :: ·) = pieces' ++ [last']
      ∧ m.modifyHead (c :: ·) = pieces' ++ [last' ++ b] := by
  subst hl hm
  cases pieces with
  | nil => exact ⟨[], c :: last, rfl, rfl⟩
  | cons piece pieces => exact ⟨(c :: piece) :: pieces, last, rfl, rfl⟩

/-- Characters that are neither quotes nor separators go to the last piece. -/
theorem exists_splitFrom_append {b : Text} (hb : ∀ c ∈ b, c ≠ '"' ∧ c ≠ separator)
    (quoted : Bool) (t : Text) :
    ∃ pieces last, splitFrom separator quoted t = pieces ++ [last]
      ∧ splitFrom separator quoted (t ++ b) = pieces ++ [last ++ b] := by
  fun_induction splitFrom separator quoted t with
  | case1 quoted =>
    refine ⟨[], [], rfl, ?_⟩
    induction b with
    | nil => rfl
    | cons c b ih =>
      obtain ⟨⟨hquote, hseparator⟩, hlater⟩ := List.forall_mem_cons.1 hb
      have hrest := ih hlater
      rw [List.nil_append] at hrest
      rw [List.nil_append, splitFrom, if_neg hquote, if_neg fun hboth => hseparator hboth.1,
        hrest]
      rfl
  | case2 quoted s ih =>
    obtain ⟨pieces, last, heq, happend⟩ := ih
    rw [List.cons_append, splitFrom, if_pos rfl]
    exact exists_modifyHead '"' heq happend
  | case3 quoted c s hc hsep ih =>
    obtain ⟨pieces, last, heq, happend⟩ := ih
    refine ⟨[] :: pieces, last, by rw [heq]; rfl, ?_⟩
    rw [List.cons_append, splitFrom, if_neg hc, if_pos hsep, happend]
    rfl
  | case4 quoted c s hc hsep ih =>
    obtain ⟨pieces, last, heq, happend⟩ := ih
    rw [List.cons_append, splitFrom, if_neg hc, if_neg hsep]
    exact exists_modifyHead c heq happend

/-- Trimming a list does not change its trimmed pieces. -/
theorem splitTrimmed_trim (hseparator : isBlank separator = false) (s : Text) :
    splitTrimmed separator s.trim = splitTrimmed separator s := by
  have hmark : ∀ c, isBlank c = true → c ≠ '"' ∧ c ≠ separator := by
    intro c hc
    constructor
    · rintro rfl
      exact absurd hc (by decide)
    · rintro rfl
      rw [hseparator] at hc
      cases hc
  obtain ⟨a, b, heq, ha, hb⟩ := s.exists_eq_trim
  have hclear : IsClear [separator] false a :=
    .of_not_mem fun c hc hmem => (hmark c (ha c hc)).2 (List.mem_singleton.1 hmem)
  have hclosed : quotedBehind false a = false :=
    quotedBehind_of_not_mem (fun hmem => (hmark _ (ha _ hmem)).1 rfl) false
  obtain ⟨pieces, last, hpieces, happend⟩ :=
    exists_splitFrom_append (fun c hc => hmark c (hb c hc)) false s.trim
  unfold splitTrimmed split
  conv => rhs; rw [heq, splitFrom_append hclear, hclosed, happend]
  rw [hpieces]
  cases pieces with
  | nil => simp [trim_blank_append ha, trim_append_blank _ hb]
  | cons piece pieces => simp [trim_blank_append ha, trim_append_blank _ hb]

-- =============================================================== no quotes

/-- A text without quotes is split at all its separators. -/
theorem split_eq_splitOn {s : Text} (h : '"' ∉ s) : split separator s = s.splitOn separator := by
  unfold split List.splitOn
  induction s with
  | nil => rfl
  | cons c s ih =>
    obtain ⟨hc, hs⟩ := List.ne_and_not_mem_of_not_mem_cons h
    rw [splitFrom, if_neg hc.symm, List.splitOnP_cons_eq_if_modifyHead, ih hs]
    by_cases heq : c = separator
    · rw [if_pos ⟨heq, rfl⟩, if_pos (beq_iff_eq.2 heq)]
    · rw [if_neg fun hboth => heq hboth.1, if_neg (mt beq_iff_eq.1 heq)]

/-- So is a text whose pieces between separators have none in quotes. -/
theorem split_eq_splitOn_of_pieces (hseparator : separator ≠ '"') {s : Text}
    (h : ∀ piece ∈ s.splitOn separator, Word (many (quotedOr ['"', separator])) piece) :
    split separator s = s.splitOn separator := by
  have hne : s.splitOn separator ≠ [] := List.splitOn_ne_nil separator s
  have hsplit := split_intercalate hseparator hne h
  rwa [List.intercalate_splitOn] at hsplit

end Aula.Text
