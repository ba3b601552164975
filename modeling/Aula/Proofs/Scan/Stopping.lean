/-
Where scanning stops before the end of a source, and what it leaves
behind.

The place is marked in three ways. No rule reads there, not even the one
for blanks; the fault tells the offset and shows what comes next; and the
text in front of it, cut off there, is read to its end, with the tokens
that were scanned before the fault.

# Why nothing changes in front of the cut

What a scan reads divides the text, and a division asks little of the
text behind a piece: only that a `No` is not followed by a word
character (`Rule.Reads`). A cut takes text away behind each piece and
adds none, so a `No` at the cut ends where it did (`IsWhole.of_append`),
and the pieces divide what is left of the source (`Division.upTo`). That
a rule might read more, or less, of the shorter text is settled by
`tokenize_of_division`: any division has the tokens that scanning finds.
-/
import Aula.Proofs.Scan.Division

namespace Aula

-- ============================================================ the cut

/-- A piece stays one where the text behind it is cut off. -/
theorem Piece.IsWhole.of_append {p : Piece} {s tail : Text} (h : p.IsWhole (s ++ tail)) :
    p.IsWhole s := by
  obtain ⟨kind, text⟩ := p
  cases kind with
  | none => exact h
  | some kind =>
    obtain ⟨r, hr, hkind, hword, hends⟩ := h
    refine ⟨r, hr, hkind, hword, fun hwhole => ?_⟩
    cases s with
    | nil => rfl
    | cons c s => exact hends hwhole

/-- The pieces of a text divide it where what they leave is cut off. -/
theorem Division.upTo {rest s : Text} {ps : List Piece} (h : Division rest s ps) :
    Division [] (Piece.spell ps) ps := by
  induction h with
  | done => exact .done
  | @cut p s ps hp hs ih =>
    rw [hs.eq_spell_append] at hp
    exact .cut hp.of_append ih

-- ========================================================== the place

namespace Rule

/-- Where the table chooses nothing, no rule of it reads. -/
theorem matchSize?_of_first?_table {s : Text} (h : first? table s = none) {r : Rule}
    (hr : r ∈ table) : r.matchSize? s = none := by
  have hscan := List.findSome?_eq_none_iff.1 h r hr
  rw [Option.map_eq_none_iff] at hscan
  unfold matchSize?
  rw [hscan]
  rfl

end Rule

/-- A source that is not readable stops being so in front of some
character, behind pieces that divide the text up to there. -/
theorem Scan.exists_stop_of_tokenize {source : Text} {f : Fault}
    (h : tokenize source = .error f) :
    ∃ ps c rest, Division (c :: rest) source ps
      ∧ Rule.first? Rule.table (c :: rest) = none
      ∧ ofSource source
          = ⟨Piece.tokens 0 ps, Text.byteSize (Piece.spell ps), c :: rest⟩
      ∧ f = (ofSource source).fault := by
  obtain ⟨ps, rest, hps, hnone, hread⟩ := exists_stop 0 source
  rw [Nat.zero_add] at hread
  have hscan : ofSource source = _ := hread
  unfold tokenize stream at h
  cases rest with
  | nil =>
    rw [if_pos (by rw [hscan])] at h
    cases h
  | cons c rest =>
    rw [if_neg (by rw [hscan]; exact List.cons_ne_nil c rest)] at h
    exact ⟨ps, c, rest, hps, hnone, hscan, (Except.error.inj h).symm⟩

-- =========================================================== the result

/-- A source that is not readable is at fault in front of the first
character where no rule reads; that is no blank. The fault tells the
offset and shows the next twenty characters, or all that are left. The
text up to there is readable, and its tokens are those scanned before the
fault. -/
theorem Scan.fault_marks_stop (source : Text) (f : Fault) (h : tokenize source = .error f) :
    ∃ before c rest tokens, source = before ++ c :: rest
      ∧ f = ⟨.unrecognisedInput before.byteSize ((c :: rest).take 20), before.byteSize⟩
      ∧ before.byteSize < source.byteSize
      ∧ isBlank c = false
      ∧ (∀ r ∈ Rule.table, r.matchSize? (c :: rest) = none)
      ∧ Scan.ofSource source = ⟨tokens, before.byteSize, c :: rest⟩
      ∧ tokenize before = .ok ⟨tokens, .endOfInput before.byteSize, rfl⟩ := by
  obtain ⟨ps, c, rest, hps, hnone, hscan, hf⟩ := exists_stop_of_tokenize h
  have hsource := hps.eq_spell_append
  have hsize : Text.byteSize (Piece.spell ps) < source.byteSize := by
    have hpos := c.utf8Size_pos
    rw [hsource, Text.byteSize_append, Text.byteSize_cons]
    omega
  rw [hscan] at hf
  exact ⟨Piece.spell ps, c, rest, Piece.tokens 0 ps, hsource, hf, hsize,
    Rule.not_blank_of_first?_table hnone c rfl,
    fun r hr => Rule.matchSize?_of_first?_table hnone hr, hscan,
    tokenize_of_division hps.upTo⟩

/-- A comment and a blank of several bytes each, then a `No` that nothing
divides from what cannot be read. The message shows twenty characters of it,
and the `No` is read as well where the text ends behind it. -/
theorem Scan.fault_marks_stop_behind_otherwise :
    tokenize ("~é~\u3000No" ++ "#¿qué es esto que sigue?")
        = .error ⟨.unrecognisedInput 9 "#¿qué es esto que si", 9⟩
      ∧ tokenize "~é~\u3000No"
        = .ok ⟨[.reading .comment "~é~" 0, .reading .otherwise "No" 7], .endOfInput 9, rfl⟩ := by
  have hcomment : ∀ s, Piece.IsWhole ⟨some .comment, "~é~"⟩ s := by
    obtain ⟨r, hr, hkind, hword⟩ : ∃ r ∈ Rule.table, r.kind = some .comment
        ∧ r.shape.covers "~é~" = true := by decide
    refine fun s => ⟨r, hr, hkind, Rule.word_of_covers hword, fun hwhole => ?_⟩
    have hno := Rule.table_wholeWord r hr hwhole
    rw [hkind] at hno
    cases hno
  have hblank : ∀ s, Piece.IsWhole ⟨none, "\u3000"⟩ s := fun s =>
    ⟨List.cons_ne_nil _ _, List.all_eq_true.1 (by decide)⟩
  have hno : Piece.IsWhole ⟨some .otherwise, "No"⟩ "#¿qué es esto que sigue?" :=
    Piece.isWhole_otherwise (by decide +kernel)
  have hnone : Rule.first? Rule.table "#¿qué es esto que sigue?" = none := by decide
  have hread := Scan.read_of_division (.cut (hcomment _) (.cut (hblank _) (.cut hno .done))) 0
  rw [Scan.readTable, Scan.read_of_none hnone] at hread
  have hscan : Scan.ofSource ("~é~\u3000No" ++ "#¿qué es esto que sigue?")
      = ⟨[.reading .comment "~é~" 0, .reading .otherwise "No" 7], 9,
          "#¿qué es esto que sigue?"⟩ := hread
  have hfault : tokenize ("~é~\u3000No" ++ "#¿qué es esto que sigue?")
      = .error ⟨.unrecognisedInput 9 "#¿qué es esto que si", 9⟩ := by
    unfold tokenize
    rw [hscan]
    rfl
  refine ⟨hfault, ?_⟩
  obtain ⟨before, c, left, tokens, hsource, -, -, -, -, hstop, hbefore⟩ :=
    Scan.fault_marks_stop _ _ hfault
  rw [hscan] at hstop
  obtain ⟨rfl, hsize, hleft⟩ := Scan.mk.inj hstop
  rw [← hleft] at hsource
  obtain rfl := List.append_cancel_right hsource
  exact hbefore

end Aula
