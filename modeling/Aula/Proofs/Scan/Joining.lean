/-
Scanning goes piece by piece: of two texts with a blank between them, each
is read as it is read alone.

The blank is what makes it so. A word of a rule is read whole, whatever
follows it, and only `No` looks at the next character, which must not be a
word character. A blank is none, so what divides the first text also
divides it in front of a blank (`Division.append`). From there on the scan
does what it does from the start, only further on: the offset goes into
the tokens it makes, and nowhere else (`read_shift`).

The second text need not be readable to its end. Where it stops being so
is where the two texts together do.
-/
import Aula.Proofs.Scan.Division

namespace Aula

-- ============================================================= shifting

/-- The token as it stands `n` bytes further on. -/
def Token.shift (n : Nat) (t : Token) : Token :=
  { t with span := ⟨t.span.start + n, t.span.stop + n⟩ }

/-- The stream as it stands `n` bytes further on. -/
def Stream.shift (n : Nat) (s : Stream) : Stream :=
  ⟨s.body.map (Token.shift n), s.final.shift n, s.final_kind⟩

/-- The tokens of a stream without its last one, and then another
stream. -/
def Stream.followedBy (s t : Stream) : Stream :=
  ⟨s.body ++ t.body, t.final, t.final_kind⟩

namespace Scan

/-- The scan as it stands `n` bytes further on. -/
def shift (n : Nat) (s : Scan) : Scan :=
  { s with tokens := s.tokens.map (Token.shift n), offset := s.offset + n }

theorem shift_push (n : Nat) (kind : Option Kind) (lexeme : Text) (offset : Nat) (s : Scan) :
    (s.push (kind.map (Token.reading · lexeme offset))).shift n
      = (s.shift n).push (kind.map (Token.reading · lexeme (offset + n))) := by
  cases kind with
  | none => rfl
  | some kind =>
    have hstop : offset + lexeme.byteSize + n = offset + n + lexeme.byteSize := by omega
    simp only [shift, push, Option.map_some, Option.toList_some, List.map_append,
      List.map_cons, List.map_nil, Token.shift, Token.reading, hstop]

/-- The offset of a scan goes into its tokens, and decides nothing. -/
theorem read_shift (choose : Text → Option (Option Kind × Nat)) (offset n : Nat) (s : Text) :
    read choose (offset + n) s = (read choose offset s).shift n := by
  fun_induction read choose offset s with
  | case1 offset => exact read_nil choose (offset + n)
  | case2 offset c s kind k hchoose lexeme ih =>
    have hsum : offset + n + lexeme.byteSize = offset + lexeme.byteSize + n := by omega
    rw [shift_push, ← ih, ← hsum, read, hchoose]
  | case3 offset c s hchoose =>
    rw [read]
    split
    · exact absurd ‹_› (hchoose _ _)
    · rfl

-- =============================================================== joining

theorem kind_ne_endOfInput (offset : Nat) (s : Text) :
    ∀ t ∈ (readTable offset s).tokens, t.kind ≠ .endOfInput := by
  obtain ⟨ps, rest, hps, -, hread⟩ := exists_stop offset s
  rw [hread]
  exact hps.kind_ne_endOfInput offset

/-- A scan that reaches the end of the text yields its tokens. -/
theorem stream_of_rest_nil {offset : Nat} {s : Text} {scan : Scan}
    (hscan : scan = readTable offset s) (hrest : scan.rest = []) :
    scan.stream = .ok ⟨scan.tokens, .endOfInput scan.offset, rfl⟩ := by
  unfold stream
  rw [if_pos hrest, Stream.ofTokens_eq]
  rw [hscan]
  exact kind_ne_endOfInput offset s

end Scan

-- =============================================================== dividing

/-- A piece stays one where more text follows, if that does not go on with
a word character. -/
theorem Piece.IsWhole.append {p : Piece} {s tail : Text} (h : p.IsWhole s)
    (htail : Text.continuesWord tail = false) : p.IsWhole (s ++ tail) := by
  obtain ⟨kind, text⟩ := p
  cases kind with
  | none => exact h
  | some kind =>
    obtain ⟨r, hr, hkind, hword, hends⟩ := h
    refine ⟨r, hr, hkind, hword, fun hwhole => ?_⟩
    cases s with
    | nil => exact htail
    | cons c s => exact hends hwhole

/-- A text divides as it did where such text follows. -/
theorem Division.append {rest s tail : Text} {ps : List Piece} (h : Division rest s ps)
    (htail : Text.continuesWord tail = false) :
    Division (rest ++ tail) (s ++ tail) ps := by
  induction h with
  | done => exact .done
  | cut hp _ ih =>
    rw [List.append_assoc]
    exact .cut (hp.append htail) ih

-- ============================================================ the result

section

variable {a w : Text} {stream : Stream}

/-- Behind a text that is read and the blanks after it, a scan does what it
does from the start. -/
theorem Scan.ofSource_append (ha : tokenize a = .ok stream) (hne : w ≠ [])
    (hw : ∀ c ∈ w, isBlank c = true) (b : Text) :
    ofSource (a ++ (w ++ b))
      = { (ofSource b).shift (a.byteSize + w.byteSize) with
          tokens := stream.body
            ++ ((ofSource b).shift (a.byteSize + w.byteSize)).tokens } := by
  obtain ⟨ps, hps⟩ := division_of_tokenize ha
  have hstream := tokenize_of_division hps
  rw [ha] at hstream
  obtain rfl := Except.ok.inj hstream
  have htail : Text.continuesWord (w ++ b) = false := by
    obtain ⟨c, w, rfl⟩ := List.exists_cons_of_ne_nil hne
    exact Rule.not_continuesWord_of_blank (hw c (List.mem_cons_self ..)) (w ++ b)
  have hspell : a = Piece.spell ps := by
    rw [hps.eq_spell_append, List.append_nil]
  have hread := read_of_division (hps.append htail) 0
  rw [← hspell, Nat.zero_add, List.nil_append, read_blanks_append _ hw] at hread
  have hshift := read_shift (Rule.first? Rule.table) 0 (a.byteSize + w.byteSize) b
  rw [Nat.zero_add] at hshift
  rw [show readTable (a.byteSize + w.byteSize) b = _ from hshift] at hread
  exact hread

end

/-- A text that is read, blanks, and another text are read as the one and
then the other, further on by as many bytes as stand before it. Where the
other is not readable, they stop being readable at the same place. -/
theorem tokenize_of_joined (a w b : Text) (stream : Stream) (ha : tokenize a = .ok stream)
    (hne : w ≠ []) (hw : ∀ c ∈ w, isBlank c = true) :
    (∀ later, tokenize b = .ok later →
        tokenize (a ++ (w ++ b))
          = .ok (stream.followedBy (later.shift (a.byteSize + w.byteSize))))
      ∧ ∀ f, tokenize b = .error f →
        ∃ offset snippet, f = ⟨.unrecognisedInput offset snippet, offset⟩
          ∧ tokenize (a ++ (w ++ b))
            = .error ⟨.unrecognisedInput (offset + (a.byteSize + w.byteSize)) snippet,
                offset + (a.byteSize + w.byteSize)⟩ := by
  have hjoined := Scan.ofSource_append ha hne hw b
  by_cases hrest : (Scan.ofSource b).rest = []
  · have hb : tokenize b = _ := Scan.stream_of_rest_nil rfl hrest
    have hrest' : (Scan.ofSource (a ++ (w ++ b))).rest = [] := by
      rw [hjoined]
      exact hrest
    have hab : tokenize (a ++ (w ++ b)) = _ := Scan.stream_of_rest_nil rfl hrest'
    rw [hb, hab]
    constructor
    · intro later h
      obtain rfl := Except.ok.inj h
      rw [hjoined]
      rfl
    · intro f h
      cases h
  · have hb : tokenize b = .error (Scan.ofSource b).fault := if_neg hrest
    have hab : tokenize (a ++ (w ++ b)) = .error (Scan.ofSource (a ++ (w ++ b))).fault := by
      apply if_neg
      rw [hjoined]
      exact hrest
    rw [hb, hab, hjoined]
    constructor
    · intro later h
      cases h
    · intro f h
      obtain rfl := Except.error.inj h
      exact ⟨_, _, rfl, rfl⟩

/-- A `No` before a blank of three bytes, and behind that a brace or a
letter. -/
theorem tokenize_of_joined_otherwise :
    tokenize "No" = .ok ⟨[.reading .otherwise "No" 0], .endOfInput 2, rfl⟩
      ∧ tokenize "No\u3000\x7b"
        = .ok ⟨[.reading .otherwise "No" 0, .reading .openBrace "\x7b" 5], .endOfInput 6, rfl⟩
      ∧ tokenize "No\u3000ñ" = .error ⟨.unrecognisedInput 5 "ñ", 5⟩ := by
  have hfirst : tokenize "No" = _ :=
    tokenize_of_division (.cut (Piece.isWhole_otherwise rfl) .done)
  have hsecond : tokenize "\x7b" = _ :=
    tokenize_of_division (.cut (Piece.isWhole_openBrace []) .done)
  have hfault : tokenize "ñ" = .error ⟨.unrecognisedInput 0 "ñ", 0⟩ := by
    have hnone : Rule.first? Rule.table "ñ" = none := by decide
    unfold tokenize Scan.ofSource Scan.byRules
    rw [Scan.read_of_none hnone]
    rfl
  have hjoined := tokenize_of_joined "No" "\u3000"
  refine ⟨hfirst, ?_, ?_⟩
  · exact (hjoined "\x7b" _ hfirst (by decide) (List.all_eq_true.1 (by decide))).1 _ hsecond
  · obtain ⟨offset, snippet, hf, h⟩ :=
      (hjoined "ñ" _ hfirst (by decide) (List.all_eq_true.1 (by decide))).2 _ hfault
    cases hf
    exact h

end Aula
