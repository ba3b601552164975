/-
The language of the checker, from characters to programs.

A layout sets the tokens of a source apart by blanks, or by nothing: the
only well-formedness it asks for is that each token is a word of a rule
of its kind. A source is accepted if and only if some layout spells it
and the tokens of that layout are a program.

# Why no blank is ever needed

Only `No` minds what follows it: it is not read in front of a word
character. In a program an opening brace comes next, or blanks before
one, and neither is a word character (`Layout.not_continuesWord`). So
the tokens of a program are read back from every layout
(`Layout.tokenize_spell`), and whatever was read has a layout
(`Layout.exists_of_tokenize`).
-/
import Aula.Proofs.Program.Parsing
import Aula.Proofs.Scan.Division

namespace Aula

-- ============================================================== layouts

/-- A token of a layout, and the blanks behind it. -/
structure Layout.Entry where
  kind : Kind
  text : Text
  gap : Text
  /-- The text is one that a rule of the kind has. -/
  word : ∃ r ∈ Rule.table, r.kind = some kind ∧ Pattern.Word r.shape text
  gap_blank : ∀ c ∈ gap, isBlank c = true

/-- Tokens set apart by blanks, or by nothing. -/
structure Layout where
  /-- The blanks in front of the first token. -/
  lead : Text
  lead_blank : ∀ c ∈ lead, isBlank c = true
  entries : List Layout.Entry

namespace Layout

/-- The text of the entries and the blanks behind each of them. -/
def spellEntries (es : List Entry) : Text := es.flatMap fun e => e.text ++ e.gap

/-- The text that is laid out. -/
def spell (l : Layout) : Text := l.lead ++ spellEntries l.entries

/-- The tokens of the entries, the first of which stands at an offset of
the source. -/
def tokensFrom : (offset : Nat) → List Entry → List Token
  | _, [] => []
  | offset, e :: es =>
    .reading e.kind e.text offset
      :: tokensFrom (offset + e.text.byteSize + e.gap.byteSize) es

/-- The tokens, each where it stands. -/
def tokens (l : Layout) : List Token := tokensFrom l.lead.byteSize l.entries

theorem spellEntries_cons (e : Entry) (es : List Entry) :
    spellEntries (e :: es) = e.text ++ (e.gap ++ spellEntries es) := by
  unfold spellEntries
  rw [List.flatMap_cons, List.append_assoc]

-- ==================================================== reading a layout

/-- Blanks, and then an opening brace, do not go on with a word
character. -/
theorem not_continuesWord {gap : Text} (hgap : ∀ c ∈ gap, isBlank c = true)
    {e : Entry} (he : e.kind = .openBrace) (s : Text) :
    Text.continuesWord (gap ++ (e.text ++ s)) = false := by
  cases gap with
  | nil =>
    obtain ⟨r, hr, hkind, hword⟩ := e.word
    rw [he] at hkind
    rw [Rule.table_openBrace r hr hkind] at hword
    rw [Pattern.word_text_iff.1 hword]
    show CharClass.wordCharacter.has '\x7b' = false
    decide +kernel
  | cons c gap => exact Rule.not_continuesWord_of_blank (hgap c (List.mem_cons_self ..)) _

/-- No `No` among the entries runs into a word character. -/
def Readable : List Entry → Prop
  | [] => True
  | e :: es =>
    (e.kind = .otherwise → Text.continuesWord (e.gap ++ spellEntries es) = false)
      ∧ Readable es

/-- The tokens are read back from a layout in which every `No` can be. -/
theorem read_entries {es : List Entry} (h : Readable es) (offset : Nat) :
    Scan.readTable offset (spellEntries es)
      = ⟨tokensFrom offset es, offset + (spellEntries es).byteSize, []⟩ := by
  induction es generalizing offset with
  | nil => exact Scan.read_nil _ offset
  | cons e es ih =>
    obtain ⟨r, hr, hkind, hword⟩ := e.word
    have hends : r.wholeWord = true →
        Text.continuesWord (e.gap ++ spellEntries es) = false := by
      intro hwhole
      apply h.1
      exact Option.some.inj (hkind.symm.trans (Rule.table_wholeWord r hr hwhole))
    rw [spellEntries_cons, Scan.read_token hr hkind ⟨hword, hends⟩,
      Scan.read_blanks_append _ e.gap_blank, ih h.2]
    simp only [Text.byteSize_append, ← Nat.add_assoc]
    rfl

/-- In a program every `No` can be read back. -/
theorem readable_of_braceAfterOtherwise {es : List Entry} {offset : Nat}
    (h : Derives.BraceAfterOtherwise (tokensFrom offset es)) : Readable es := by
  induction es generalizing offset with
  | nil => exact trivial
  | cons e es ih =>
    refine ⟨fun hno => ?_, ih h.2⟩
    obtain ⟨o, rest, htokens, ho⟩ := h.1 hno
    cases es with
    | nil => cases htokens
    | cons e' es =>
      obtain ⟨rfl, -⟩ := List.cons.inj htokens
      rw [spellEntries_cons]
      exact not_continuesWord e.gap_blank ho _

/-- No entry is an end of input. -/
theorem tokensFrom_kind_ne_endOfInput {es : List Entry} {offset : Nat} :
    ∀ t ∈ tokensFrom offset es, t.kind ≠ .endOfInput := by
  induction es generalizing offset with
  | nil => intro t ht; cases ht
  | cons e es ih =>
    intro t ht
    rcases List.mem_cons.1 ht with rfl | ht
    · obtain ⟨r, hr, hkind, -⟩ := e.word
      intro hend
      exact Rule.table_not_endOfInput r hr (hkind.trans (congrArg some hend))
    · exact ih t ht

/-- A source has the tokens of a layout in which every `No` can be read
back. -/
theorem tokenize_of_readable {l : Layout} (h : Readable l.entries) :
    tokenize l.spell = .ok ⟨l.tokens, .endOfInput l.spell.byteSize, rfl⟩ := by
  refine tokenize_of_read ?_ tokensFrom_kind_ne_endOfInput
  unfold spell
  rw [Scan.read_blanks_append 0 l.lead_blank, Nat.zero_add, read_entries h,
    Text.byteSize_append]
  rfl

/-- A source that is laid out as a program has the tokens of its
layout. -/
theorem tokenize_spell {l : Layout} (h : Derives .program l.tokens) :
    tokenize l.spell = .ok ⟨l.tokens, .endOfInput l.spell.byteSize, rfl⟩ :=
  tokenize_of_readable (readable_of_braceAfterOtherwise h.brace_after_otherwise)

-- =================================================== finding a layout

/-- Every division of a source is that of a layout, with the same
tokens. -/
theorem exists_of_division {source : Text} {ps : List Piece}
    (h : Division [] source ps) :
    ∃ l : Layout, l.spell = source ∧ ∀ offset,
      Piece.tokens offset ps = tokensFrom (offset + l.lead.byteSize) l.entries := by
  induction h with
  | done =>
    refine ⟨⟨[], by simp, []⟩, rfl, fun offset => rfl⟩
  | @cut p s ps hp hs ih =>
    obtain ⟨⟨lead, hlead, es⟩, rfl, htokens⟩ := ih
    obtain ⟨kind, text⟩ := p
    cases kind with
    | none =>
      -- the blanks come in front of those that the rest begins with
      have hblank : ∀ c ∈ text ++ lead, isBlank c = true :=
        List.forall_mem_append.2 ⟨hp.2, hlead⟩
      refine ⟨⟨text ++ lead, hblank, es⟩, List.append_assoc .., fun offset => ?_⟩
      show [] ++ Piece.tokens (offset + text.byteSize) ps = _
      rw [htokens, List.nil_append, Text.byteSize_append, Nat.add_assoc]
    | some kind =>
      -- the blanks that the rest begins with are those behind the token
      obtain ⟨r, hr, hkind, hreads⟩ := hp
      let e : Entry := ⟨kind, text, lead, ⟨r, hr, hkind, hreads.word⟩, hlead⟩
      refine ⟨⟨[], by simp, e :: es⟩, spellEntries_cons e es, fun offset => ?_⟩
      show _ :: Piece.tokens (offset + text.byteSize) ps = _
      rw [htokens]
      rfl

/-- Whatever is read is laid out in some way. -/
theorem exists_of_tokenize {source : Text} {stream : Stream}
    (h : tokenize source = .ok stream) :
    ∃ l : Layout, l.spell = source
      ∧ stream = ⟨l.tokens, .endOfInput source.byteSize, rfl⟩ := by
  obtain ⟨ps, hps⟩ := division_of_tokenize h
  obtain ⟨l, hspell, htokens⟩ := exists_of_division hps
  rw [tokenize_of_division hps, htokens 0, Nat.zero_add] at h
  exact ⟨l, hspell, (Except.ok.inj h).symm⟩

end Layout

-- ============================================================= programs

/-- What is checked of a source that is read is its tokens. -/
theorem Program.check_of_tokenize {source : Text} {stream : Stream}
    (h : tokenize source = .ok stream) : check source = (parse stream).map fun _ => stream := by
  unfold check
  rw [h]
  rfl

/-- Checking a source reads its tokens, and parses them. -/
theorem Program.check_iff {source : Text} {stream : Stream} :
    check source = .ok stream ↔ tokenize source = .ok stream ∧ parse stream = .ok () := by
  unfold check
  cases htokenize : tokenize source with
  | error f =>
    constructor
    · intro h
      cases h
    · intro h
      obtain ⟨⟨⟩, -⟩ := h
  | ok tokens =>
    show (parse tokens >>= fun _ => pure tokens) = _ ↔ _
    constructor
    · intro h
      cases hparse : parse tokens with
      | error f => rw [hparse] at h; cases h
      | ok _ =>
        rw [hparse] at h
        cases h
        exact ⟨rfl, hparse⟩
    · intro h
      obtain ⟨⟨⟩, hparse⟩ := h
      rw [hparse]
      rfl

/-- The tokens of a layout are accepted if and only if they are a
program. -/
theorem Layout.parse_tokens_iff {l : Layout} {size : Nat} :
    Program.parse ⟨l.tokens, .endOfInput size, rfl⟩ = .ok () ↔ Derives .program l.tokens :=
  Program.parse_iff_derives Layout.tokensFrom_kind_ne_endOfInput

/-- A source is accepted, and its tokens returned, if and only if it is
laid out as a program with these tokens. -/
theorem Program.check_eq_ok_iff (source : Text) (stream : Stream) :
    Program.check source = .ok stream
      ↔ ∃ l : Layout, l.spell = source ∧ Derives .program l.tokens
          ∧ stream = ⟨l.tokens, .endOfInput source.byteSize, rfl⟩ := by
  rw [Program.check_iff]
  constructor
  · intro h
    obtain ⟨htokenize, hparse⟩ := h
    obtain ⟨ps, hps⟩ := division_of_tokenize htokenize
    obtain ⟨l, hspell, htokens⟩ := Layout.exists_of_division hps
    have hstream := tokenize_of_division hps
    rw [htokenize, htokens, Nat.zero_add] at hstream
    obtain rfl := Except.ok.inj hstream
    exact ⟨l, hspell, Layout.parse_tokens_iff.1 hparse, rfl⟩
  · intro h
    obtain ⟨l, rfl, h, rfl⟩ := h
    exact ⟨Layout.tokenize_spell h, Layout.parse_tokens_iff.2 h⟩

end Aula
