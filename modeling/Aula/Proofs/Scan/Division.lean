/-
Divisions of a source into pieces, and the one that scanning finds.

A piece is a run of blanks or the full text of one token
(`Piece.IsWhole`); a division cuts a text into pieces from the front,
without regard to how a scanner would go about it. A source may have
many divisions, since a run of blanks may be cut anywhere, but they
differ in nothing else: all have the tokens that scanning yields
(`read_of_division`). So scanning, which takes what fits first and
never goes back, fails only where every division fails.

# How a division is found again

Three facts about one step carry both directions. A token that a
division has in front is what scanning reads there, because rules
decide their languages and exclude each other. A run of blanks is read
whole, and reading it in two parts leads to the same place
(`read_blanks_append`). And what scanning reads is a piece.
-/
import Aula.Proofs.Scan.Choice

namespace Aula

/-- A piece of a source. -/
structure Piece where
  /-- The kind of its token, or none if it is blank. -/
  kind : Option Kind
  text : Text
deriving DecidableEq, Repr

namespace Piece

/-- The text that is made up of the pieces. -/
def spell (ps : List Piece) : Text := ps.flatMap text

/-- The tokens among the pieces, the first of which stands at an offset
of the source. -/
def tokens : (offset : Nat) → List Piece → List Token
  | _, [] => []
  | offset, p :: ps =>
    (p.kind.map (Token.reading · p.text offset)).toList
      ++ tokens (offset + p.text.byteSize) ps

/-- The piece is a run of blanks, or a full text of some rule, which may
stand before `rest`. -/
def IsWhole (p : Piece) (rest : Text) : Prop :=
  match p.kind with
  | none => p.text ≠ [] ∧ ∀ c ∈ p.text, isBlank c = true
  | some kind => ∃ r ∈ Rule.table, r.kind = some kind ∧ r.Reads p.text rest

/-- A brace is whole before any text. -/
theorem isWhole_openBrace (rest : Text) : IsWhole ⟨some .openBrace, "\x7b"⟩ rest :=
  ⟨⟨some .openBrace, "\x7b", false⟩, by decide, rfl, .text _, fun h => by cases h⟩

theorem isWhole_closeBrace (rest : Text) : IsWhole ⟨some .closeBrace, "\x7d"⟩ rest :=
  ⟨⟨some .closeBrace, "\x7d", false⟩, by decide, rfl, .text _, fun h => by cases h⟩

/-- A `No` is whole where no word character follows. -/
theorem isWhole_otherwise {rest : Text} (h : Text.continuesWord rest = false) :
    IsWhole ⟨some .otherwise, "No"⟩ rest :=
  ⟨⟨some .otherwise, "No", true⟩, by decide, rfl, .text _, fun _ => h⟩

end Piece

/-- A text divides into whole pieces, up to where `rest` is left. -/
inductive Division (rest : Text) : Text → List Piece → Prop where
  | done : Division rest rest []
  | cut {p : Piece} {s : Text} {ps : List Piece} (hp : p.IsWhole s)
      (hs : Division rest s ps) : Division rest (p.text ++ s) (p :: ps)

namespace Division

/-- The pieces and what is left make up the text. -/
theorem eq_spell_append {rest s : Text} {ps : List Piece} (h : Division rest s ps) :
    s = Piece.spell ps ++ rest := by
  induction h with
  | done => rfl
  | @cut p s ps hp hs ih =>
    unfold Piece.spell at ih ⊢
    rw [List.flatMap_cons, List.append_assoc, ← ih]

end Division

namespace Rule

-- ============================================================== one step

/-- What the table reads in front of a text: some rule's scan. -/
theorem first?_table_eq_some_iff {s : Text} {kind : Option Kind} {n : Nat} :
    first? table s = some (kind, n)
      ↔ ∃ r ∈ table, r.kind = kind ∧ r.scan s = some n := by
  have hchoice : IsChoice (first? table) := isChoice_first? (.refl _)
  constructor
  · intro h
    obtain ⟨r, hr, m, hm, heq⟩ := mem_fitting.1 (hchoice.fits s _ h)
    obtain ⟨rfl, rfl⟩ := Prod.mk.inj heq
    exact ⟨r, hr, rfl, hm⟩
  · intro h
    obtain ⟨r, hr, rfl, hn⟩ := h
    have hfit : (r.kind, n) ∈ fitting table s := mem_fitting.2 ⟨r, hr, n, hn, rfl⟩
    cases hfirst : first? table s with
    | none =>
      rw [hchoice.gives_up s hfirst] at hfit
      cases hfit
    | some x => rw [fitting_unique hfit (hchoice.fits s x hfirst)]

/-- What is read is a whole piece, and not empty. -/
theorem isWhole_of_first? {s : Text} {kind : Option Kind} {n : Nat}
    (h : first? table s = some (kind, n)) :
    0 < n ∧ n ≤ s.length ∧ (Piece.mk kind (s.take n)).IsWhole (s.drop n) := by
  obtain ⟨r, hr, rfl, hscan⟩ := first?_table_eq_some_iff.1 h
  obtain ⟨hle, hreads⟩ := reads_of_scan hscan
  have hne := hreads.ne_nil hr
  refine ⟨Nat.pos_of_ne_zero fun hzero => hne (by rw [hzero]; rfl), hle, ?_⟩
  unfold Piece.IsWhole
  cases hkind : r.kind with
  | none =>
    have hword := hreads.word
    rw [(table_blank r hr hkind).1] at hword
    exact word_gap_iff.1 hword
  | some kind => exact ⟨r, hr, hkind, hreads⟩

/-- Blanks in front are read, all of them. -/
theorem first?_table_of_blank {s : Text} (h : s.takeWhile isBlank ≠ []) :
    first? table s = some (none, (s.takeWhile isBlank).length) := by
  obtain ⟨r, hr, hkind⟩ : ∃ r ∈ table, r.kind = none := by decide
  exact first?_table_eq_some_iff.2 ⟨r, hr, hkind, scan_blank hr hkind h⟩

/-- Where nothing is read, no blank is in front. -/
theorem not_blank_of_first?_table {s : Text} (h : first? table s = none) :
    ∀ c ∈ s.head?, isBlank c = false := by
  intro c hc
  apply Bool.eq_false_iff.2
  intro hblank
  obtain ⟨later, rfl⟩ := List.head?_eq_some_iff.1 hc
  have hfirst := first?_table_of_blank (s := c :: later)
    (by rw [List.takeWhile_cons_of_pos hblank]; exact List.cons_ne_nil _ _)
  rw [h] at hfirst
  cases hfirst

end Rule

namespace Scan

open Rule (table first?)

/-- The scan by the rules of the language, from an offset on. -/
abbrev readTable : Nat → Text → Scan := read (first? table)

/-- A step of a scan: what is chosen becomes a token, if it is to, and
reading goes on behind it. -/
theorem read_of_choose {choose : Text → Option (Option Kind × Nat)} {offset : Nat}
    {s : Text} {kind : Option Kind} {n : Nat} (h : choose s = some (kind, n))
    (hpos : 0 < n) (hle : n ≤ s.length) :
    read choose offset s
      = (read choose (offset + Text.byteSize (s.take n)) (s.drop n)).push
          (kind.map (Token.reading · (s.take n) offset)) := by
  cases s with
  | nil => exact absurd (Nat.lt_of_lt_of_le hpos hle) (Nat.lt_irrefl 0)
  | cons c s =>
    obtain ⟨m, rfl⟩ := Nat.exists_eq_succ_of_ne_zero (Nat.pos_iff_ne_zero.1 hpos)
    rw [read, h]
    rfl

/-- A scan ends with the text. -/
theorem read_nil (choose : Text → Option (Option Kind × Nat)) (offset : Nat) :
    read choose offset [] = ⟨[], offset, []⟩ := by
  rw [read]

/-- A scan ends where nothing is chosen. -/
theorem read_of_none {choose : Text → Option (Option Kind × Nat)} {offset : Nat}
    {s : Text} (h : choose s = none) : read choose offset s = ⟨[], offset, s⟩ := by
  cases s with
  | nil => exact read_nil choose offset
  | cons c s => rw [read, h]

/-- A token in front of a text is read, whatever follows it. -/
theorem read_token {offset : Nat} {r : Rule} (hr : r ∈ table) {kind : Kind}
    (hkind : r.kind = some kind) {w s : Text} (h : r.Reads w s) :
    readTable offset (w ++ s)
      = (readTable (offset + w.byteSize) s).push (some (.reading kind w offset)) := by
  have hscan := h.scan_append hr (by rw [hkind]; exact Option.some_ne_none kind)
  have hfirst := Rule.first?_table_eq_some_iff.2 ⟨r, hr, hkind, hscan⟩
  have hpos : 0 < w.length := List.length_pos_iff.2 (h.ne_nil hr)
  rw [readTable, read_of_choose hfirst hpos (by simp), List.take_left, List.drop_left]
  rfl

/-- The blanks in front of a text are read at once. -/
theorem read_dropWhile (offset : Nat) (s : Text) :
    readTable offset s
      = readTable (offset + Text.byteSize (s.takeWhile isBlank)) (s.dropWhile isBlank) := by
  by_cases hnil : s.takeWhile isBlank = []
  · have hdrop : s.dropWhile isBlank = s := by
      have := List.takeWhile_append_dropWhile (p := isBlank) (l := s)
      rwa [hnil, List.nil_append] at this
    rw [hnil, hdrop]
    rfl
  · have hfirst := Rule.first?_table_of_blank hnil
    have hle := (List.takeWhile_prefix isBlank (l := s)).length_le
    have htake : s.take (s.takeWhile isBlank).length = s.takeWhile isBlank :=
      (List.prefix_iff_eq_take.1 (List.takeWhile_prefix isBlank)).symm
    have hdrop : s.drop (s.takeWhile isBlank).length = s.dropWhile isBlank := by
      conv => lhs; arg 2; rw [← List.takeWhile_append_dropWhile (p := isBlank) (l := s)]
      rw [List.drop_left]
    rw [readTable, read_of_choose hfirst (List.length_pos_iff.2 hnil) hle, htake, hdrop]
    rfl

/-- Reading blanks moves the offset, and leads to where reading them in
two parts leads. -/
theorem read_blanks_append (offset : Nat) {w : Text} (hw : ∀ c ∈ w, isBlank c = true)
    (s : Text) : readTable offset (w ++ s) = readTable (offset + w.byteSize) s := by
  rw [read_dropWhile offset, read_dropWhile (offset + w.byteSize),
    List.takeWhile_append_of_pos hw, List.dropWhile_append_of_pos hw,
    Text.byteSize_append, Nat.add_assoc]

-- ============================================================ both ways

/-- Scanning finds the tokens of a division, whichever it is, and goes on
where the division ends. -/
theorem read_of_division {rest s : Text} {ps : List Piece} (h : Division rest s ps)
    (offset : Nat) :
    readTable offset s
      = { readTable (offset + Text.byteSize (Piece.spell ps)) rest with
          tokens := Piece.tokens offset ps
            ++ (readTable (offset + Text.byteSize (Piece.spell ps)) rest).tokens } := by
  induction h generalizing offset with
  | done => rfl
  | @cut p s ps hp hs ih =>
    obtain ⟨kind, text⟩ := p
    have hsize : offset + Text.byteSize (Piece.spell (⟨kind, text⟩ :: ps))
        = offset + text.byteSize + Text.byteSize (Piece.spell ps) := by
      unfold Piece.spell
      rw [List.flatMap_cons, Text.byteSize_append, Nat.add_assoc]
    rw [hsize]
    cases kind with
    | none =>
      obtain ⟨-, hblank⟩ := hp
      rw [read_blanks_append offset hblank, ih]
      rfl
    | some kind =>
      obtain ⟨r, hr, hkind, hreads⟩ := hp
      rw [read_token hr hkind hreads, ih]
      rfl

/-- What scanning has read when it stops is a division, and no rule reads
anything there. -/
theorem exists_division (offset : Nat) (s : Text) :
    ∃ ps, Division (readTable offset s).rest s ps
      ∧ first? table (readTable offset s).rest = none := by
  cases hfirst : first? table s with
  | none =>
    rw [readTable, read_of_none hfirst]
    exact ⟨[], .done, hfirst⟩
  | some x =>
    obtain ⟨kind, n⟩ := x
    obtain ⟨hpos, hle, hwhole⟩ := Rule.isWhole_of_first? hfirst
    have : (s.drop n).length < s.length := by rw [List.length_drop]; omega
    obtain ⟨ps, hps, hstop⟩ := exists_division (offset + Text.byteSize (s.take n)) (s.drop n)
    rw [readTable, read_of_choose hfirst hpos hle]
    refine ⟨⟨kind, s.take n⟩ :: ps, ?_, hstop⟩
    have hcut := Division.cut hwhole hps
    rwa [List.take_append_drop] at hcut
termination_by s.length

/-- So a scan has the tokens of that division, and stops behind it. -/
theorem exists_stop (offset : Nat) (s : Text) :
    ∃ ps rest, Division rest s ps ∧ first? table rest = none
      ∧ readTable offset s
        = ⟨Piece.tokens offset ps, offset + Text.byteSize (Piece.spell ps), rest⟩ := by
  obtain ⟨ps, hps, hstop⟩ := exists_division offset s
  refine ⟨ps, _, hps, hstop, ?_⟩
  have hread := read_of_division hps offset
  rw [readTable, read_of_none hstop, List.append_nil] at hread
  exact hread

end Scan

-- =========================================================== the stream

/-- Each token of a division is a word of a rule of its kind. -/
theorem Division.exists_rule {rest s : Text} {ps : List Piece} (h : Division rest s ps)
    (offset : Nat) : ∀ t ∈ Piece.tokens offset ps,
      ∃ r ∈ Rule.table, r.kind = some t.kind ∧ Pattern.Word r.shape t.lexeme := by
  induction h generalizing offset with
  | done =>
    intro t ht
    cases ht
  | @cut p s ps hp hs ih =>
    intro t ht
    rcases List.mem_append.1 ht with ht | ht
    · obtain ⟨kind, text⟩ := p
      cases kind with
      | none => cases ht
      | some kind =>
        obtain ⟨r, hr, hkind, hreads⟩ := hp
        rw [List.mem_singleton.1 ht]
        exact ⟨r, hr, hkind, hreads.word⟩
    · exact ih _ t ht

/-- No piece is an end of input. -/
theorem Division.kind_ne_endOfInput {rest s : Text} {ps : List Piece}
    (h : Division rest s ps) (offset : Nat) :
    ∀ t ∈ Piece.tokens offset ps, t.kind ≠ .endOfInput := by
  intro t ht hend
  obtain ⟨r, hr, hkind, -⟩ := h.exists_rule offset t ht
  rw [hend] at hkind
  exact Rule.table_not_endOfInput r hr hkind

/-- Tokens without end of input are followed by the end of the input. -/
theorem Stream.ofTokens_eq {tokens : List Token} (size : Nat)
    (h : ∀ t ∈ tokens, t.kind ≠ .endOfInput) :
    Stream.ofTokens tokens size = ⟨tokens, .endOfInput size, rfl⟩ := by
  unfold Stream.ofTokens
  cases hlast : tokens.getLast? with
  | none => rfl
  | some t => exact dif_neg (h t (List.mem_of_getLast? hlast))

/-- A source that is read to its end has the tokens that are read. -/
theorem tokenize_of_read {source : Text} {tokens : List Token}
    (hread : Scan.readTable 0 source = ⟨tokens, source.byteSize, []⟩)
    (h : ∀ t ∈ tokens, t.kind ≠ .endOfInput) :
    tokenize source = .ok ⟨tokens, .endOfInput source.byteSize, rfl⟩ := by
  unfold Scan.readTable at hread
  unfold tokenize Scan.ofSource Scan.byRules Scan.stream
  rw [hread]
  rw [if_pos rfl, Stream.ofTokens_eq _ h]

/-- A source with a division has its tokens, whichever it is. -/
theorem tokenize_of_division {source : Text} {ps : List Piece}
    (h : Division [] source ps) :
    tokenize source = .ok ⟨Piece.tokens 0 ps, .endOfInput source.byteSize, rfl⟩ := by
  have hspell : Piece.spell ps = source := by
    rw [h.eq_spell_append, List.append_nil]
  have hread := Scan.read_of_division h 0
  rw [hspell, Nat.zero_add] at hread
  refine tokenize_of_read ?_ (h.kind_ne_endOfInput 0)
  rw [hread, Scan.readTable, Scan.read_nil, List.append_nil]

/-- A source that is read to its end has a division. -/
theorem division_of_tokenize {source : Text} {stream : Stream}
    (h : tokenize source = .ok stream) : ∃ ps, Division [] source ps := by
  obtain ⟨ps, hps, -⟩ := Scan.exists_division 0 source
  unfold tokenize Scan.stream at h
  by_cases hrest : (Scan.ofSource source).rest = []
  · exact ⟨ps, by rwa [← hrest]⟩
  · rw [if_neg hrest] at h
    cases h

/-- A source can be read if and only if it divides into pieces in some
way. All its divisions have the same tokens at the same places, and
these are what is read. -/
theorem tokenize_iff_division (source : Text) :
    ((∃ stream, tokenize source = .ok stream) ↔ ∃ ps, Division [] source ps)
      ∧ (∀ ps, Division [] source ps →
          tokenize source
            = .ok ⟨Piece.tokens 0 ps, .endOfInput source.byteSize, rfl⟩)
      ∧ ∀ ps ps', Division [] source ps → Division [] source ps' →
          Piece.tokens 0 ps = Piece.tokens 0 ps' := by
  refine ⟨⟨?_, ?_⟩, fun ps h => tokenize_of_division h, ?_⟩
  · intro h
    obtain ⟨stream, h⟩ := h
    exact division_of_tokenize h
  · intro h
    obtain ⟨ps, h⟩ := h
    exact ⟨_, tokenize_of_division h⟩
  · intro ps ps' h h'
    have heq := (tokenize_of_division h).symm.trans (tokenize_of_division h')
    exact congrArg Stream.body (Except.ok.inj heq)

/-- Two blanks may be one piece or two; either way the tokens are the
same. -/
theorem tokens_of_divided_blanks :
    Division [] "No  \x7b"
        [⟨some .otherwise, "No"⟩, ⟨none, "  "⟩, ⟨some .openBrace, "\x7b"⟩]
      ∧ Division [] "No  \x7b"
        [⟨some .otherwise, "No"⟩, ⟨none, " "⟩, ⟨none, " "⟩, ⟨some .openBrace, "\x7b"⟩]
      ∧ Piece.tokens 0
          [⟨some .otherwise, "No"⟩, ⟨none, "  "⟩, ⟨some .openBrace, "\x7b"⟩]
        = Piece.tokens 0
          [⟨some .otherwise, "No"⟩, ⟨none, " "⟩, ⟨none, " "⟩,
            ⟨some .openBrace, "\x7b"⟩] := by
  have hno : Piece.IsWhole ⟨some .otherwise, "No"⟩ "  \x7b" := by
    refine ⟨⟨some .otherwise, "No", true⟩, by decide, rfl, .text _, fun _ => ?_⟩
    decide +kernel
  have hbrace : Piece.IsWhole ⟨some .openBrace, "\x7b"⟩ [] :=
    ⟨⟨some .openBrace, "\x7b", false⟩, by decide, rfl, .text _, fun h => by cases h⟩
  have hblank : ∀ rest, Piece.IsWhole ⟨none, " "⟩ rest := fun rest =>
    ⟨List.cons_ne_nil _ _, List.all_eq_true.1 (by decide)⟩
  have hblanks : ∀ rest, Piece.IsWhole ⟨none, "  "⟩ rest := fun rest =>
    ⟨List.cons_ne_nil _ _, List.all_eq_true.1 (by decide)⟩
  have hdivision := Division.cut hno (.cut (hblanks _) (.cut hbrace .done))
  have hdivision' :=
    Division.cut hno (.cut (hblank _) (.cut (hblank _) (.cut hbrace .done)))
  exact ⟨hdivision, hdivision',
    (tokenize_iff_division _).2.2 _ _ hdivision hdivision'⟩

end Aula
