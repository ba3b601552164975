/-
Outputs are accepted by their grammar, and the first culprit is named.

An output is split at its commas and each segment at its plus signs, and
both times the pieces are trimmed. Neither split goes wrong: no piece holds
a comma or a plus sign outside its quotes. So the segments of an output are
those of the grammar, and so are the pieces of a segment
(`word_segment_iff`).

# A quoted text on its own

One rule is not about a segment alone. A quoted text may be output, but not
beside other segments. Both the grammar and the check (`checkSegment_eq`)
tell it from all other segments, and those are pieces and nothing else.

# Who is to blame

The check goes through the segments from the left, and in each through the
pieces, and stops at the first that is wrong. `Blames` is what it finds
there.
-/
import Aula.Proofs.Header.Cause
import Aula.Proofs.Header.Separation

namespace Aula.Output

open Pattern (Word many oneOrMore)
open Text (splitTrimmed)
open Operand (quotedOr quotedText)
open Grammar (padded piece segments)
open Header (IsFirst)

-- ================================================================ pieces

/-- What is checked is whether a word is a variable. -/
theorem checkVariable_eq_ok_iff {word segment : Text} :
    checkVariable word segment = .ok () ↔ Word Shape.name word := by
  rw [Operand.word_name_iff]
  unfold checkVariable
  by_cases hreserved : Keyword.isReserved word = true
  · simp [hreserved]
  · by_cases hidentifier : Operand.isIdentifier word = true
    · simp [hreserved, hidentifier]
    · simp [hreserved, hidentifier]

/-- What is checked of a piece is whether it is one. -/
theorem checkPiece_eq_ok_iff {segment word : Text} :
    checkPiece segment word = .ok () ↔ Word piece word := by
  unfold checkPiece piece
  rw [Pattern.word_or_iff, ← Operand.isQuotedText_iff]
  by_cases hquoted : Operand.isQuotedText word = true
  · simp [hquoted]
  · rw [if_neg hquoted, checkVariable_eq_ok_iff]
    simp [hquoted]

/-- What is wrong with a word that is no piece. -/
theorem checkPiece_eq_error {segment word : Text} (h : ¬ Word piece word) :
    checkPiece segment word
      = .error (if Keyword.isReserved word then .reservedWord word segment
          else .malformedOutput segment) := by
  unfold piece at h
  rw [Pattern.word_or_iff, not_or, ← Operand.isQuotedText_iff, Operand.word_name_iff] at h
  obtain ⟨hquoted, hname⟩ := h
  unfold checkPiece checkVariable
  rw [if_neg hquoted]
  by_cases hreserved : Keyword.isReserved word = true
  · simp [hreserved]
  · have hidentifier : Operand.isIdentifier word ≠ true := by
      intro h
      exact hname ⟨Bool.eq_false_iff.2 hreserved, h⟩
    simp [hreserved, hidentifier]

/-- A variable is not quoted. -/
theorem not_word_quotedText_of_name {w : Text} (h : Word Shape.name w) : ¬ Word quotedText w :=
  h.not_word (by decide) (by decide)

-- ============================================================== segments

/-- Blanks around a piece are what trimming takes away. -/
theorem word_padded_piece_iff {u : Text} : Word (padded piece) u ↔ Word piece u.trim :=
  Pattern.word_padded_iff (by decide) (by decide)

theorem word_padded_name_iff {u : Text} : Word (padded Shape.name) u ↔ Word Shape.name u.trim :=
  Pattern.word_padded_iff (by decide) (by decide)

theorem word_padded_quotedText_iff {u : Text} :
    Word (padded quotedText) u ↔ Word quotedText u.trim :=
  Pattern.word_padded_iff (by decide) (by decide)

/-- A piece is passed over, with the blanks around it, where no mark is in a
name or blank. -/
theorem word_quotedOr_of_piece {marks : Text}
    (hname : CharClass.areApart Shape.name.letters [.anyOf marks] = true)
    (hblank : CharClass.areApart [.blank] [.anyOf marks] = true) {u : Text}
    (h : Word (padded piece) u) : Word (many (quotedOr marks)) u := by
  refine Operand.word_quotedOr_of_padded hblank (fun v hv => ?_) h
  rcases Pattern.word_or_iff.1 hv with hquoted | hname'
  · exact Operand.word_quotedOr_of_quotedText hquoted
  · exact Operand.word_quotedOr_of_letters hname' hname

/-- A quoted text is not split. -/
theorem splitTrimmed_of_quotedText {separator : Char}
    (hblank : CharClass.areApart [.blank] [.anyOf ['"', separator]] = true) {u : Text}
    (h : Word quotedText u.trim) : splitTrimmed separator u = [u.trim] := by
  have hpass : Word (many (quotedOr ['"', separator])) u :=
    Operand.word_quotedOr_of_padded hblank (fun v => Operand.word_quotedOr_of_quotedText)
      (word_padded_quotedText_iff.2 h)
  rw [splitTrimmed, Text.split_of_word hpass, List.map_singleton]

/-- No plus sign stands in a piece, outside quotes. -/
theorem pass_plus : ∀ u, Word (padded piece) u → Word (many (quotedOr ['"', '+'])) u :=
  fun _ hu => word_quotedOr_of_piece (by decide) (by decide) hu

/-- The pieces that are joined are what the text is split into. -/
theorem word_joined_iff {u : Text} :
    Word (padded piece ++ oneOrMore ("+" ++ padded piece)) u
      ↔ 1 < (splitTrimmed '+' u).length ∧ ∀ word ∈ splitTrimmed '+' u, Word piece word := by
  have hplus : '+' ≠ '"' := by decide
  have hsplit := Text.word_joined_iff_split hplus pass_plus (t := u)
  unfold splitTrimmed
  rw [List.length_map, List.forall_mem_map]
  simp only [word_padded_piece_iff] at hsplit
  exact hsplit

/-- A segment is pieces, and not a quoted text on its own. -/
theorem word_segment_iff {u : Text} :
    Word Grammar.segment u
      ↔ (∀ word ∈ splitTrimmed '+' u, Word piece word) ∧ ¬ Word quotedText u.trim := by
  unfold Grammar.segment
  rw [Pattern.word_or_iff, word_joined_iff, word_padded_name_iff]
  constructor
  · intro h
    rcases h with hname | ⟨hlength, hpieces⟩
    · refine ⟨?_, not_word_quotedText_of_name hname⟩
      have hpass := pass_plus u (word_padded_piece_iff.2 (.second hname))
      rw [splitTrimmed, Text.split_of_word hpass, List.map_singleton]
      exact List.forall_mem_singleton.2 (.second hname)
    · refine ⟨hpieces, fun hquoted => ?_⟩
      rw [splitTrimmed_of_quotedText (by decide) hquoted] at hlength
      exact absurd hlength (Nat.lt_irrefl 1)
  · intro h
    obtain ⟨hpieces, hquoted⟩ := h
    by_cases hlength : 1 < (splitTrimmed '+' u).length
    · exact .inr ⟨hlength, hpieces⟩
    · rw [Text.splitTrimmed_of_length hlength, List.forall_mem_singleton] at hpieces
      exact .inl ((Pattern.word_or_iff.1 hpieces).resolve_left hquoted)

/-- It does not matter whether a segment is trimmed. -/
theorem word_segment_trim_iff {u : Text} :
    Word Grammar.segment u.trim ↔ Word Grammar.segment u := by
  rw [word_segment_iff, word_segment_iff, Text.splitTrimmed_trim (by decide), Text.trim_trim]

/-- What is checked of a segment: of a quoted text, that it is alone, and of
any other that it is pieces. -/
theorem checkSegment_eq {alone : Bool} {s : Text} (htrim : s.trim = s) :
    checkSegment alone s
      = if Operand.isQuotedText s then
          if alone then .ok () else .error (.stringNotAlone s)
        else (splitTrimmed '+' s).forM (checkPiece s) := by
  simp only [checkSegment]
  by_cases hquoted : Operand.isQuotedText s = true
  · have hword : Word quotedText s.trim := by
      rw [htrim]
      exact Operand.isQuotedText_iff.1 hquoted
    rw [splitTrimmed_of_quotedText (by decide) hword]
    simp [hquoted]
  · by_cases hlength : 1 < (splitTrimmed '+' s).length
    · rw [if_pos hlength, if_neg hquoted]
    · have honly : [s].forM (checkPiece s) = checkVariable s s := by
        show (checkPiece s s >>= fun _ => pure ()) = _
        rw [checkPiece, if_neg hquoted]
        exact bind_pure _
      rw [if_neg hlength, if_neg hquoted, if_neg hquoted,
        Text.splitTrimmed_of_length hlength, htrim, honly]

/-- A segment is accepted if it is one, or a quoted text and alone. -/
theorem checkSegment_eq_ok_iff {alone : Bool} {s : Text} (htrim : s.trim = s) :
    checkSegment alone s = .ok ()
      ↔ Word Grammar.segment s ∨ (alone = true ∧ Word quotedText s) := by
  rw [checkSegment_eq htrim, word_segment_iff, htrim, ← Operand.isQuotedText_iff]
  by_cases hquoted : Operand.isQuotedText s = true
  · cases alone <;> simp [hquoted]
  · rw [if_neg hquoted, Header.forM_eq_ok_iff]
    simp only [checkPiece_eq_ok_iff, hquoted]
    simp

-- ================================================================= blame

/-- What is wrong with `s`, one of the `segments` of an output. -/
inductive Blames (segments : List Text) (s : Text) : Cause → Prop
  /-- A quoted text has other segments beside it. -/
  | notAlone (hseveral : segments.length ≠ 1) (hquoted : Word quotedText s) :
      Blames segments s (.stringNotAlone s)
  /-- The first word that is no piece is reserved. -/
  | reserved {word : Text} (hfirst : IsFirst (¬ Word piece ·) word (splitTrimmed '+' s))
      (hreserved : Keyword.isReserved word = true) :
      Blames segments s (.reservedWord word s)
  /-- The first word that is no piece is not even that. -/
  | malformed {word : Text} (hfirst : IsFirst (¬ Word piece ·) word (splitTrimmed '+' s))
      (hreserved : Keyword.isReserved word = false) :
      Blames segments s (.malformedOutput s)

/-- The pieces of a quoted text are fine. -/
theorem not_isFirst_of_quotedText {s word : Text} (htrim : s.trim = s)
    (h : Word quotedText s) : ¬ IsFirst (¬ Word piece ·) word (splitTrimmed '+' s) := by
  intro hfirst
  have hsplit : splitTrimmed '+' s = [s] := by
    rw [splitTrimmed_of_quotedText (by decide) (by rwa [htrim]), htrim]
  have hmem := hfirst.mem
  rw [hsplit, List.mem_singleton] at hmem
  subst hmem
  exact hfirst.holds (.first h)

/-- The first word that is no piece decides what is found in a segment. -/
theorem forM_checkPiece_eq_error_iff {s : Text} {cause : Cause} :
    (splitTrimmed '+' s).forM (checkPiece s) = .error cause
      ↔ ∃ word, IsFirst (¬ Word piece ·) word (splitTrimmed '+' s)
        ∧ cause = if Keyword.isReserved word then .reservedWord word s
            else .malformedOutput s := by
  rw [Header.forM_eq_error_iff]
  refine exists_congr fun word => ?_
  rw [Header.isFirst_congr fun y _ => not_congr checkPiece_eq_ok_iff]
  refine and_congr_right fun hfirst => ?_
  rw [checkPiece_eq_error hfirst.holds, Except.error.injEq]
  exact eq_comm

/-- What is found in a segment is what is wrong with it. -/
theorem checkSegment_eq_error_iff {segments : List Text} {s : Text} (htrim : s.trim = s)
    {cause : Cause} :
    checkSegment (segments.length = 1) s = .error cause ↔ Blames segments s cause := by
  rw [checkSegment_eq htrim]
  by_cases hquoted : Word quotedText s
  · rw [if_pos (Operand.isQuotedText_iff.2 hquoted)]
    constructor
    · intro h
      by_cases hone : segments.length = 1
      · simp [hone] at h
      · simp only [hone, decide_false, Bool.false_eq_true, if_false, Except.error.injEq] at h
        subst h
        exact .notAlone hone hquoted
    · intro h
      cases h with
      | notAlone hseveral => simp [hseveral]
      | reserved hfirst => exact absurd hfirst (not_isFirst_of_quotedText htrim hquoted)
      | malformed hfirst => exact absurd hfirst (not_isFirst_of_quotedText htrim hquoted)
  · rw [if_neg (mt Operand.isQuotedText_iff.1 hquoted), forM_checkPiece_eq_error_iff]
    constructor
    · intro h
      obtain ⟨word, hfirst, rfl⟩ := h
      cases hreserved : Keyword.isReserved word with
      | true => exact .reserved hfirst hreserved
      | false => exact .malformed hfirst hreserved
    · intro h
      cases h with
      | notAlone _ hquoted' => exact absurd hquoted' hquoted
      | @reserved word hfirst hreserved => exact ⟨word, hfirst, by rw [if_pos hreserved]⟩
      | @malformed word hfirst hreserved => exact ⟨word, hfirst, by simp [hreserved]⟩

-- =============================================================== outputs

/-- No comma stands in a segment, outside quotes. -/
theorem pass_comma : ∀ u, Word Grammar.segment u → Word (many (quotedOr ['"', ','])) u := by
  have hpiece : ∀ v, Word (padded piece) v → Word (many (quotedOr ['"', ','])) v :=
    fun _ hv => word_quotedOr_of_piece (by decide) (by decide) hv
  have hplus : Word (many (quotedOr ['"', ','])) ['+'] :=
    Operand.word_quotedOr_of_not_mem (by simp)
  intro u hu
  rcases Pattern.word_or_iff.1 hu with hname | hjoined
  · have hname' := word_padded_name_iff.1 hname
    exact hpiece u (word_padded_piece_iff.2 (.second hname'))
  · obtain ⟨us, -, hus, rfl⟩ := Pattern.word_joined_iff.1 hjoined
    exact hplus.many_intercalate fun v hv => hpiece v (hus v hv)

/-- The segments of an output are what it is split into. -/
theorem word_segments_iff {t : Text} :
    Word segments t ↔ ∀ s ∈ splitTrimmed ',' t, Word Grammar.segment s := by
  have hcomma : ',' ≠ '"' := by decide
  have hsplit := Text.word_list_iff_split hcomma pass_comma (t := t)
  unfold splitTrimmed
  rw [List.forall_mem_map]
  simp only [word_segment_trim_iff]
  exact hsplit

/-- An output is accepted if it is a quoted text, or a list of segments. -/
theorem check_eq_ok_iff_segments {t : Text} :
    check t = .ok () ↔ Word quotedText t.trim ∨ Word segments t := by
  have hchecked : check t = .ok () ↔ ∀ s ∈ splitTrimmed ',' t,
      Word Grammar.segment s ∨ ((splitTrimmed ',' t).length = 1 ∧ Word quotedText s) := by
    unfold check
    rw [Header.forM_eq_ok_iff]
    refine forall₂_congr fun s hs => ?_
    rw [checkSegment_eq_ok_iff (Text.trim_of_mem_splitTrimmed hs), decide_eq_true_eq]
  rw [hchecked, word_segments_iff]
  constructor
  · intro h
    by_cases hone : (splitTrimmed ',' t).length = 1
    · have honly : splitTrimmed ',' t = [t.trim] := Text.splitTrimmed_of_length (by omega)
      rw [honly, List.forall_mem_singleton] at h ⊢
      rcases h with hsegment | ⟨-, hquoted⟩
      · exact .inr hsegment
      · exact .inl hquoted
    · refine .inr fun s hs => ?_
      exact (h s hs).resolve_right fun hquoted => hone hquoted.1
  · intro h
    rcases h with hquoted | hsegments
    · rw [splitTrimmed_of_quotedText (by decide) hquoted, List.forall_mem_singleton]
      exact .inr ⟨rfl, hquoted⟩
    · exact fun s hs => .inl (hsegments s hs)

/-- A text is accepted in the parentheses of `kiara.salida` if it is one
quoted text or a list of segments. If not, the first segment that something
is wrong with is to blame. -/
theorem check_blames_first (t : Text) :
    (check t = .ok () ↔ Word quotedText t.trim ∨ Word segments t)
      ∧ ∀ cause, check t = .error cause
        ↔ ∃ s, IsFirst (fun s => ∃ cause, Blames (splitTrimmed ',' t) s cause) s
            (splitTrimmed ',' t) ∧ Blames (splitTrimmed ',' t) s cause := by
  refine ⟨check_eq_ok_iff_segments, fun cause => ?_⟩
  have hblames : ∀ s ∈ splitTrimmed ',' t, ∀ cause,
      checkSegment ((splitTrimmed ',' t).length = 1) s = .error cause
        ↔ Blames (splitTrimmed ',' t) s cause :=
    fun s hs _ => checkSegment_eq_error_iff (Text.trim_of_mem_splitTrimmed hs)
  unfold check
  rw [Header.forM_eq_error_iff]
  refine exists_congr fun s => ?_
  rw [Header.isFirst_congr fun y hy => Header.ne_ok_iff.trans (exists_congr (hblames y hy))]
  exact and_congr_right fun hfirst => hblames s hfirst.mem cause

end Aula.Output
