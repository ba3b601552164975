/-
Scanning loses nothing: the source can be put together again from the
tokens and the blanks between them.

`Stream.Restores` says what a stream has to have for that. Its spans lie
in the source one behind the other; each lexeme is what stands at its
span, to the byte; what no span covers is blank; and lexemes and gaps in
turn make up the source.

# Where the scan stands

The offset of a scan is a number of bytes, and a text can only be read
where a character begins. `Scan.Visits` are the cursors that a scan comes
by. Each stands in front of a whole rest of the source
(`Visits.exists_rest`), because it was moved there by the size of a piece
that stood in front of it.

# Why no lexeme is ever trimmed

A scanner may well take the blanks off a lexeme before it makes a token
of it (`Token.trimming`). Here that changes nothing: no word of a rule
with a kind begins or ends with a blank (`Rule.Reads.trim`), which is a
computation over the table.
-/
import Aula.Proofs.Pattern.Letters
import Aula.Proofs.Program.Language
import Aula.Proofs.Text.Trim
import Aula.Text.Cursor

namespace Aula

-- =============================================================== slices

namespace Text

/-- The first `n` bytes of the text, unless these end past its end or
inside a character. -/
def uptoByte? : Nat → Text → Option Text
  | 0, _ => some []
  | _ + 1, [] => none
  | n + 1, c :: s =>
    if c.utf8Size ≤ n + 1 then (uptoByte? (n + 1 - c.utf8Size) s).map (c :: ·) else none

/-- The text of a span; there is none if the span ends before it starts,
or at an end of it no character begins and the text does not end. -/
def slice? (s : Text) (span : Span) : Option Text :=
  if span.start ≤ span.stop then
    (fromByte? span.start s).bind (uptoByte? (span.stop - span.start))
  else none

/-- The texts of both lists, one of the first, one of the second, and so
on. -/
def weave : List Text → List Text → Text
  | gap :: gaps, w :: ws => gap ++ (w ++ weave gaps ws)
  | gaps, [] => gaps.flatten
  | [], ws => ws.flatten

/-- A leading piece is as many bytes long as its size says. -/
theorem uptoByte?_byteSize_append (w t : Text) :
    uptoByte? (byteSize w) (w ++ t) = some w := by
  induction w with
  | nil => simp [uptoByte?]
  | cons c w ih =>
    obtain ⟨k, hk⟩ := Nat.exists_eq_add_of_lt c.utf8Size_pos
    have hsize : byteSize (c :: w) = (k + byteSize w) + 1 := by
      simp only [byteSize_cons]
      omega
    have hleft : k + byteSize w + 1 - c.utf8Size = byteSize w := by omega
    rw [hsize, List.cons_append, uptoByte?, if_pos (by omega), hleft, ih]
    rfl

/-- A piece of a text is the slice at its place. -/
theorem slice?_append (before w after : Text) :
    slice? (before ++ (w ++ after)) ⟨before.byteSize, before.byteSize + w.byteSize⟩
      = some w := by
  unfold slice?
  rw [if_pos (Nat.le_add_right ..), fromByte?_byteSize_append, Nat.add_sub_cancel_left]
  exact uptoByte?_byteSize_append w after

end Text

-- ============================================================= the words

/-- The token of the given kind that a text yields once the blanks at its
ends are taken off. -/
def Token.trimming (kind : Kind) (text : Text) (offset : Nat) : Token :=
  let start := offset + (text.byteSize - text.trimStart.byteSize)
  ⟨kind, text.trim, start, start + text.trim.byteSize⟩

namespace Rule

/-- No token begins with a blank, and none ends with one. -/
theorem table_outer_apart_blank : ∀ r ∈ table, r.kind ≠ none →
    CharClass.areApart r.shape.first [.blank] = true
      ∧ CharClass.areApart r.shape.mirror.first [.blank] = true := by
  decide

/-- The word of a token rule begins and ends without a blank. -/
theorem ends_not_blank {r : Rule} (hr : r ∈ table) (hkind : r.kind ≠ none) {w : Text}
    (h : Pattern.Word r.shape w) :
    (∀ c ∈ w.head?, isBlank c = false) ∧ ∀ c ∈ w.getLast?, isBlank c = false := by
  obtain ⟨hfirst, hlast⟩ := table_outer_apart_blank r hr hkind
  exact ⟨h.head?_not_has hfirst, h.getLast?_not_has hlast⟩

/-- What a token rule reads is trimmed already. -/
theorem trim_word {r : Rule} (hr : r ∈ table) (hkind : r.kind ≠ none) {w : Text}
    (h : Pattern.Word r.shape w) : w.trim = w := by
  obtain ⟨hfirst, hlast⟩ := ends_not_blank hr hkind h
  exact Text.trim_eq_self hfirst hlast

/-- Taking the blanks off what a token rule reads gives the token itself. -/
theorem trimming_word {r : Rule} (hr : r ∈ table) {kind : Kind} (hkind : r.kind = some kind)
    {w : Text} (h : Pattern.Word r.shape w) (offset : Nat) :
    Token.trimming kind w offset = .reading kind w offset := by
  have hsome : r.kind ≠ none := by simp [hkind]
  have hstart := Text.trimStart_eq_self (ends_not_blank hr hsome h).1
  unfold Token.trimming Token.reading
  rw [trim_word hr hsome h, hstart, Nat.sub_self, Nat.add_zero]

/-- No rule reads zero bytes. -/
theorem matchSize?_ne_zero {r : Rule} (hr : r ∈ table) (s : Text) :
    r.matchSize? s ≠ some 0 := by
  intro hzero
  unfold matchSize? at hzero
  obtain ⟨n, hscan, hsize⟩ := Option.map_eq_some_iff.1 hzero
  exact (reads_of_scan hscan).2.ne_nil hr (Text.byteSize_eq_zero.1 hsize)

end Rule

-- ======================================================= putting together

/-- The spans between two offsets that the tokens leave over. -/
def Token.gaps : (start : Nat) → List Token → (stop : Nat) → List Span
  | start, [], stop => [⟨start, stop⟩]
  | start, t :: ts, stop => ⟨start, t.span.start⟩ :: gaps t.span.stop ts stop

/-- The source can be put together from the stream again. -/
structure Stream.Restores (s : Stream) (source : Text) : Prop where
  /-- The end of the input stands at the end of the source. -/
  final : s.final = .endOfInput source.byteSize
  /-- It is the only one. -/
  inner : ∀ t ∈ s.body, t.kind ≠ .endOfInput
  /-- Each span lies in the source and is not empty. -/
  inside : ∀ t ∈ s.body, t.span.start < t.span.stop ∧ t.span.stop ≤ source.byteSize
  /-- Each lexeme is the text of its span. -/
  lexemes : ∀ t ∈ s.body, source.slice? t.span = some t.lexeme
  trimmed : ∀ t ∈ s.body, t.lexeme.trim = t.lexeme
  /-- Each span ends before the next ones start. -/
  ordered : s.body.Pairwise fun t u => t.span.stop ≤ u.span.start
  /-- What is between the spans is blank, and there is nothing else. -/
  gaps : ∃ gaps, (Token.gaps 0 s.body source.byteSize).mapM source.slice? = some gaps
    ∧ (∀ gap ∈ gaps, ∀ c ∈ gap, isBlank c = true)
    ∧ Text.weave gaps (s.body.map Token.lexeme) = source

namespace Layout

/-- No token stands in front of the offset of the first. -/
theorem le_start_of_mem {es : List Entry} {offset : Nat} {t : Token}
    (ht : t ∈ tokensFrom offset es) : offset ≤ t.span.start := by
  induction es generalizing offset with
  | nil => cases ht
  | cons e es ih =>
    rcases List.mem_cons.1 ht with rfl | ht
    · exact Nat.le_refl offset
    · have := ih ht
      omega

/-- The lexeme of a token is the text of an entry. -/
theorem exists_entry {es : List Entry} {offset : Nat} {t : Token}
    (ht : t ∈ tokensFrom offset es) : ∃ e ∈ es, t.lexeme = e.text := by
  induction es generalizing offset with
  | nil => cases ht
  | cons e es ih =>
    rcases List.mem_cons.1 ht with rfl | ht
    · exact ⟨e, List.mem_cons_self .., rfl⟩
    · obtain ⟨e', he', heq⟩ := ih ht
      exact ⟨e', List.mem_cons_of_mem e he', heq⟩

/-- A token stands in the text at the offset that it tells. -/
theorem exists_place {es : List Entry} (before : Text) {t : Token}
    (ht : t ∈ tokensFrom before.byteSize es) :
    ∃ b a, before ++ spellEntries es = b ++ (t.lexeme ++ a)
      ∧ t.span = ⟨b.byteSize, b.byteSize + t.lexeme.byteSize⟩ := by
  induction es generalizing before with
  | nil => cases ht
  | cons e es ih =>
    rw [spellEntries_cons]
    rcases List.mem_cons.1 ht with rfl | ht
    · exact ⟨before, _, rfl, rfl⟩
    · rw [← Text.byteSize_append, ← Text.byteSize_append] at ht
      obtain ⟨b, a, heq, hspan⟩ := ih (before ++ e.text ++ e.gap) ht
      refine ⟨b, a, ?_, hspan⟩
      rw [← heq]
      simp only [List.append_assoc]

/-- Each token ends before the next ones start. -/
theorem pairwise_tokensFrom (es : List Entry) (offset : Nat) :
    (tokensFrom offset es).Pairwise fun t u => t.span.stop ≤ u.span.start := by
  induction es generalizing offset with
  | nil => exact .nil
  | cons e es ih =>
    refine .cons (fun u hu => ?_) (ih _)
    exact Nat.le_trans (Nat.le_add_right ..) (le_start_of_mem hu)

/-- The gaps between the tokens are those of the entries. -/
theorem mapM_gaps (es : List Entry) (before gap : Text) :
    (Token.gaps before.byteSize (tokensFrom (before ++ gap).byteSize es)
        (before ++ (gap ++ spellEntries es)).byteSize).mapM
      (before ++ (gap ++ spellEntries es)).slice?
        = some (gap :: es.map Entry.gap) := by
  induction es generalizing before gap with
  | nil =>
    have hslice := Text.slice?_append before gap []
    simp only [tokensFrom, Token.gaps, spellEntries, List.flatMap_nil,
      Text.byteSize_append, Text.byteSize_nil, Nat.add_zero, List.mapM_cons,
      List.mapM_nil, hslice]
    rfl
  | cons e es ih =>
    have hslice := Text.slice?_append before gap (spellEntries (e :: es))
    -- behind the first token the same holds of a longer text in front
    have hrest := ih (before ++ gap ++ e.text) e.gap
    have htext : before ++ gap ++ e.text ++ (e.gap ++ spellEntries es)
        = before ++ (gap ++ spellEntries (e :: es)) := by
      rw [spellEntries_cons]
      simp only [List.append_assoc]
    rw [htext] at hrest
    simp only [tokensFrom, Token.gaps, Token.reading, List.mapM_cons]
    simp only [Text.byteSize_append] at hslice hrest ⊢
    rw [hslice, hrest]
    rfl

/-- Gaps and texts in turn make up the text. -/
theorem weave_entries (es : List Entry) (gap : Text) (offset : Nat) :
    Text.weave (gap :: es.map Entry.gap) ((tokensFrom offset es).map Token.lexeme)
      = gap ++ spellEntries es := by
  induction es generalizing gap offset with
  | nil => rfl
  | cons e es ih =>
    rw [spellEntries_cons, ← ih e.gap]
    rfl

/-- A source is put together again from the tokens of its layout. -/
theorem restores (l : Layout) :
    Stream.Restores ⟨l.tokens, .endOfInput l.spell.byteSize, rfl⟩ l.spell := by
  have hword : ∀ t ∈ l.tokens, t.lexeme ≠ [] ∧ t.lexeme.trim = t.lexeme := by
    intro t ht
    obtain ⟨e, -, heq⟩ := exists_entry ht
    obtain ⟨r, hr, hkind, hword⟩ := e.word
    rw [heq]
    refine ⟨fun hnil => ?_, Rule.trim_word hr (by simp [hkind]) hword⟩
    have hnull := Rule.table_not_nullable r hr
    rw [hnil] at hword
    rw [hword.nullable] at hnull
    cases hnull
  have hplace : ∀ t ∈ l.tokens, ∃ b a, l.lead ++ spellEntries l.entries = b ++ (t.lexeme ++ a)
      ∧ t.span = ⟨b.byteSize, b.byteSize + t.lexeme.byteSize⟩ :=
    fun t ht => exists_place l.lead ht
  refine ⟨rfl, tokensFrom_kind_ne_endOfInput, fun t ht => ?_, fun t ht => ?_,
    fun t ht => (hword t ht).2, pairwise_tokensFrom _ _, l.lead :: l.entries.map Entry.gap,
    ?_, ?_, weave_entries l.entries l.lead _⟩
  · obtain ⟨b, a, heq, hspan⟩ := hplace t ht
    have hpos : t.lexeme.byteSize ≠ 0 := mt Text.byteSize_eq_zero.1 (hword t ht).1
    have hsize := congrArg Text.byteSize heq
    simp only [Text.byteSize_append] at hsize
    rw [hspan]
    unfold spell
    simp only [Text.byteSize_append]
    omega
  · obtain ⟨b, a, heq, hspan⟩ := hplace t ht
    rw [hspan]
    unfold spell
    rw [heq]
    exact Text.slice?_append b t.lexeme a
  · exact mapM_gaps l.entries [] l.lead
  · intro gap hgap
    rcases List.mem_cons.1 hgap with rfl | hgap
    · exact l.lead_blank
    · obtain ⟨e, -, rfl⟩ := List.mem_map.1 hgap
      exact e.gap_blank

end Layout

-- ======================================================= the scan's cursor

namespace Scan

open Rule (table first?)

/-- The cursors that a scan of the source comes by. -/
inductive Visits (source : Text) : Cursor → Prop where
  | start : Visits source { source }
  | step {c : Cursor} {rest : Text} {kind : Option Kind} {n : Nat} (h : Visits source c)
      (hrest : c.rest? = some rest) (hfirst : first? table rest = some (kind, n)) :
      Visits source (c.advance (Text.byteSize (rest.take n)))

/-- A cursor that is visited stands in front of a whole rest of the source,
and what the scan finds from there on is the end of what it finds. -/
theorem Visits.exists_rest {source : Text} {c : Cursor} (h : Visits source c) :
    c.source = source ∧ ∃ before rest, source = before ++ rest
      ∧ c.offset = before.byteSize
      ∧ ∃ tokens, ofSource source
          = { readTable c.offset rest with
              tokens := tokens ++ (readTable c.offset rest).tokens } := by
  induction h with
  | start => exact ⟨rfl, [], source, rfl, rfl, [], rfl⟩
  | @step c rest kind n h hrest hfirst ih =>
    obtain ⟨hsource, before, rest', heq, hoffset, tokens, hscan⟩ := ih
    obtain rfl : rest' = rest := by
      unfold Cursor.rest? at hrest
      rw [hsource, heq, hoffset, Text.fromByte?_byteSize_append] at hrest
      exact Option.some.inj hrest
    obtain ⟨hpos, hle, -⟩ := Rule.isWhole_of_first? hfirst
    refine ⟨hsource, before ++ rest'.take n, rest'.drop n, ?_, ?_, ?_⟩
    · rw [List.append_assoc, List.take_append_drop]
      exact heq
    · rw [Text.byteSize_append, ← hoffset]
      rfl
    · rw [readTable, read_of_choose hfirst hpos hle] at hscan
      refine ⟨tokens ++ (kind.map (Token.reading · (rest'.take n) c.offset)).toList, ?_⟩
      rw [hscan, List.append_assoc]
      rfl

end Scan

-- ============================================================== the result

/-- A source that is read is put together again from its tokens. -/
theorem restores_of_tokenize {source : Text} {stream : Stream}
    (h : tokenize source = .ok stream) : stream.Restores source := by
  obtain ⟨l, rfl, rfl⟩ := Layout.exists_of_tokenize h
  exact l.restores

/-- Scanning loses nothing. A source that is read can be put together
again from its tokens. On the way no rule reads zero bytes; each cursor
stands where a character begins or the source ends, and what is found
from there on is the end of what is found; and each token is as it would
be if the blanks at its ends were taken off. -/
theorem Scan.loses_nothing (source : Text) :
    (∀ stream, tokenize source = .ok stream → stream.Restores source)
      ∧ (∀ r ∈ Rule.table, ∀ s, r.matchSize? s ≠ some 0)
      ∧ ∀ c, Scan.Visits source c → c.offset ≤ source.byteSize
        ∧ ∃ rest tokens, c.rest? = some rest
          ∧ Scan.ofSource source
              = { Scan.readTable c.offset rest with
                  tokens := tokens ++ (Scan.readTable c.offset rest).tokens }
          ∧ ∀ kind n, Rule.first? Rule.table rest = some (some kind, n) →
              Token.trimming kind (rest.take n) c.offset
                = .reading kind (rest.take n) c.offset := by
  refine ⟨fun stream h => restores_of_tokenize h,
    fun r hr s => Rule.matchSize?_ne_zero hr s, fun c h => ?_⟩
  obtain ⟨hsource, before, rest, heq, hoffset, tokens, hscan⟩ := h.exists_rest
  refine ⟨?_, rest, tokens, ?_, hscan, fun kind n hfirst => ?_⟩
  · rw [hoffset, heq, Text.byteSize_append]
    exact Nat.le_add_right ..
  · unfold Cursor.rest?
    rw [hsource, heq, hoffset, Text.fromByte?_byteSize_append]
  · obtain ⟨r, hr, hkind, hread⟩ := Rule.first?_table_eq_some_iff.1 hfirst
    exact Rule.trimming_word hr hkind (Rule.reads_of_scan hread).2.word c.offset

/-- A comment and a blank of several bytes each, and a brace behind
them. -/
theorem Scan.loses_nothing_wide :
    tokenize "~é~\u3000\x7b"
        = .ok ⟨[.reading .comment "~é~" 0, .reading .openBrace "\x7b" 7],
            .endOfInput 8, rfl⟩
      ∧ Stream.Restores ⟨[.reading .comment "~é~" 0, .reading .openBrace "\x7b" 7],
            .endOfInput 8, rfl⟩ "~é~\u3000\x7b"
      ∧ Rule.matchSize? ⟨some .openBrace, "\x7b", false⟩ "\x7b" ≠ some 0
      ∧ ∃ rest, Cursor.rest? { source := "~é~\u3000\x7b", offset := 4 } = some rest := by
  have hcomment : Piece.IsWhole ⟨some .comment, "~é~"⟩ "\u3000\x7b" := by
    obtain ⟨r, hr, hkind, hword⟩ : ∃ r ∈ Rule.table, r.kind = some .comment
        ∧ r.shape.covers "~é~" = true := by decide
    refine ⟨r, hr, hkind, Rule.word_of_covers hword, fun hwhole => ?_⟩
    have hno := Rule.table_wholeWord r hr hwhole
    rw [hkind] at hno
    cases hno
  have hbrace : Piece.IsWhole ⟨some .openBrace, "\x7b"⟩ [] :=
    ⟨⟨some .openBrace, "\x7b", false⟩, by decide, rfl, .text _, fun h => by cases h⟩
  have hblank : Piece.IsWhole ⟨none, "\u3000"⟩ "\x7b" :=
    ⟨List.cons_ne_nil _ _, List.all_eq_true.1 (by decide)⟩
  have hread := tokenize_of_division (.cut hcomment (.cut hblank (.cut hbrace .done)))
  have hnothing := Scan.loses_nothing "~é~\u3000\x7b"
  have hfirst : Rule.first? Rule.table "~é~\u3000\x7b" = some (some .comment, 3) := by decide
  have hstart : Scan.Visits "~é~\u3000\x7b" { source := "~é~\u3000\x7b" } := .start
  have hvisits := hstart.step rfl hfirst
  obtain ⟨-, rest, -, hrest, -⟩ := hnothing.2.2 _ hvisits
  exact ⟨hread, hnothing.1 _ hread, hnothing.2.1 _ (by decide) _, rest, hrest⟩

end Aula
