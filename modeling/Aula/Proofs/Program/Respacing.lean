/-
The blanks between the tokens of a source do not matter.

`Stream.Spacing` are other blanks for the tokens of a source: any, or none
at all, but that a `No` in front of a token keeps a blank behind it. The
source that is spelled with them has the same tokens, in other places.

# Two parts

That the tokens are the same is a matter of scanning: tokens and blanks are
a layout, and every layout in which each `No` can be read back is read back
(`Layout.tokenize_of_readable`). So no word of a rule runs on into the next
lexeme, even where nothing stands between them.

That the verdict is the same is a matter of parsing, which never looks at a
place (`Program.parse_alike`). Taken with the relation between the offsets of
corresponding tokens, it also tells where the fault of the one source is
found in the other.
-/
import Aula.Proofs.Program.Relocation
import Aula.Proofs.Scan.Lossless

namespace Aula

-- ============================================================== spacings

/-- Blanks to put around the tokens of a stream: in front of the first, and
behind each. -/
structure Stream.Spacing (s : Stream) where
  lead : Text
  gaps : List Text
  length_gaps : gaps.length = s.body.length
  lead_blank : ∀ c ∈ lead, isBlank c = true
  gaps_blank : ∀ gap ∈ gaps, ∀ c ∈ gap, isBlank c = true
  /-- A `No` in front of another token has a blank behind it. -/
  apart : ∀ i t, s.body[i]? = some t → t.kind = .otherwise → i + 1 < s.body.length →
    gaps[i]? ≠ some []

/-- The source that the tokens and their new blanks make up. -/
def Stream.Spacing.spell {s : Stream} (spacing : s.Spacing) : Text :=
  Text.weave (spacing.lead :: spacing.gaps) (s.body.map Token.lexeme)

/-- The offsets of two tokens of one index. -/
def Stream.Correspond (s u : Stream) (p q : Nat) : Prop :=
  ∃ (k : Nat) (t t' : Token), s.toList[k]? = some t ∧ u.toList[k]? = some t'
    ∧ p = t.offset ∧ q = t'.offset

namespace Layout

-- ============================================================ the entries

theorem map_kind_tokensFrom (es : List Entry) (offset : Nat) :
    (tokensFrom offset es).map Token.kind = es.map Entry.kind := by
  induction es generalizing offset with
  | nil => rfl
  | cons e es ih => exact congrArg (e.kind :: ·) (ih _)

theorem map_lexeme_tokensFrom (es : List Entry) (offset : Nat) :
    (tokensFrom offset es).map Token.lexeme = es.map Entry.text := by
  induction es generalizing offset with
  | nil => rfl
  | cons e es ih => exact congrArg (e.text :: ·) (ih _)

/-- The same tokens may have any other blanks behind them. -/
theorem exists_respaced {es : List Entry} {gaps : List Text}
    (hlength : gaps.length = es.length)
    (hblank : ∀ gap ∈ gaps, ∀ c ∈ gap, isBlank c = true) :
    ∃ es' : List Entry, es'.map Entry.kind = es.map Entry.kind
      ∧ es'.map Entry.text = es.map Entry.text ∧ es'.map Entry.gap = gaps := by
  induction es generalizing gaps with
  | nil =>
    obtain rfl := List.eq_nil_of_length_eq_zero hlength
    exact ⟨[], rfl, rfl, rfl⟩
  | cons e es ih =>
    obtain ⟨gap, gaps, rfl⟩ := List.exists_cons_of_length_eq_add_one hlength
    obtain ⟨hgap, hgaps⟩ := List.forall_mem_cons.1 hblank
    obtain ⟨es', hkinds, htexts, rfl⟩ := ih (Nat.succ.inj hlength) hgaps
    refine ⟨{ e with gap := gap, gap_blank := hgap } :: es', ?_, ?_, rfl⟩
    · exact congrArg (e.kind :: ·) hkinds
    · exact congrArg (e.text :: ·) htexts

theorem exists_token {ts : List Token} {es : List Entry}
    (h : ts.map Token.kind = es.map Entry.kind) {i : Nat} {e : Entry} (he : es[i]? = some e) :
    ∃ t, ts[i]? = some t ∧ t.kind = e.kind := by
  have hkind : (ts.map Token.kind)[i]? = some e.kind := by
    rw [h, List.getElem?_map, he]
    rfl
  rw [List.getElem?_map] at hkind
  exact Option.map_eq_some_iff.1 hkind

/-- Where each `No` has a blank or nothing behind it, it can be read back. -/
theorem readable_of_apart {es : List Entry}
    (h : ∀ i e, es[i]? = some e → e.kind = .otherwise → i + 1 < es.length → e.gap ≠ []) :
    Readable es := by
  induction es with
  | nil => exact trivial
  | cons e es ih =>
    refine ⟨fun hno => ?_, ih fun i e' he' hno hi => ?_⟩
    · cases hgap : e.gap with
      | cons c gap =>
        have hblank := e.gap_blank c (by rw [hgap]; exact List.mem_cons_self ..)
        exact Rule.not_continuesWord_of_blank hblank _
      | nil =>
        cases es with
        | nil => rfl
        | cons e' es => exact absurd hgap (h 0 e rfl hno (by simp))
    · exact h (i + 1) e' he' hno (by simpa using hi)

end Layout

-- =========================================================== the new source

variable {source : Text} {stream : Stream}

/-- The tokens of a source are read back from it with any other spacing. -/
theorem tokenize_of_spacing (h : tokenize source = .ok stream) (spacing : stream.Spacing) :
    ∃ respaced, tokenize spacing.spell = .ok respaced
      ∧ respaced.body.map Token.kind = stream.body.map Token.kind
      ∧ respaced.body.map Token.lexeme = stream.body.map Token.lexeme := by
  obtain ⟨⟨lead, hlead, es⟩, -, rfl⟩ := Layout.exists_of_tokenize h
  obtain ⟨lead', gaps, hlength, hlead', hgaps, hapart⟩ := spacing
  have hkinds := Layout.map_kind_tokensFrom es lead.byteSize
  have htexts := Layout.map_lexeme_tokensFrom es lead.byteSize
  have hcount : gaps.length = es.length := by
    rw [hlength, ← List.length_map Token.kind, ← List.length_map Layout.Entry.kind]
    exact congrArg List.length hkinds
  obtain ⟨es', hkinds', htexts', rfl⟩ := Layout.exists_respaced hcount hgaps
  have hsame : (Layout.tokensFrom lead.byteSize es).map Token.kind = es'.map Layout.Entry.kind :=
    hkinds.trans hkinds'.symm
  have hreadable : Layout.Readable es' := by
    apply Layout.readable_of_apart
    intro i e he hno hi hgap
    obtain ⟨t, ht, hk⟩ := Layout.exists_token hsame he
    apply hapart i t ht (hk.trans hno)
    · rw [← hlength, List.length_map]
      exact hi
    · rw [List.getElem?_map, he, ← hgap]
      rfl
  have hread := Layout.tokenize_of_readable (l := ⟨lead', hlead', es'⟩) hreadable
  have hspell : Text.weave (lead' :: es'.map Layout.Entry.gap)
      ((Layout.tokensFrom lead.byteSize es).map Token.lexeme)
        = Layout.spell ⟨lead', hlead', es'⟩ := by
    rw [htexts, ← htexts', ← Layout.map_lexeme_tokensFrom es' 0]
    exact Layout.weave_entries es' lead' 0
  rw [← hspell] at hread
  refine ⟨_, hread, ?_, ?_⟩
  · exact (Layout.map_kind_tokensFrom es' lead'.byteSize).trans hsame.symm
  · exact (Layout.map_lexeme_tokensFrom es' lead'.byteSize).trans (htexts'.trans htexts.symm)

-- =========================================================== the verdict

/-- Two sources that are read as the same tokens are read as streams that are
alike, up to the places of the tokens. -/
theorem Stream.Restores.alike {u : Stream} {target : Text} (hs : stream.Restores source)
    (hu : u.Restores target) (hkinds : u.body.map Token.kind = stream.body.map Token.kind)
    (hlexemes : u.body.map Token.lexeme = stream.body.map Token.lexeme) :
    Stream.Alike (fun p q =>
      stream.Correspond u p q ∧ (p = source.byteSize ↔ q = target.byteSize)) stream u := by
  have hlength : u.body.length = stream.body.length := by
    simpa using congrArg List.length hkinds
  constructor
  · refine Token.forall₂_alike hkinds hlexemes fun i t t' ht ht' => ⟨?_, ?_⟩
    · refine ⟨i, t, t', ?_, ?_, rfl, rfl⟩
      · exact (List.getElem?_append_left (List.getElem?_eq_some_iff.1 ht).1).trans ht
      · exact (List.getElem?_append_left (List.getElem?_eq_some_iff.1 ht').1).trans ht'
    · -- a token that is read ends in its source, so it does not start at the end
      have hin := hs.inside t (List.mem_of_getElem? ht)
      have hin' := hu.inside t' (List.mem_of_getElem? ht')
      unfold Token.offset
      omega
  · have hlast : stream.toList[stream.body.length]? = some stream.final :=
      List.getElem?_concat_length
    have hlast' : u.toList[stream.body.length]? = some u.final := by
      rw [← hlength]
      exact List.getElem?_concat_length
    refine ⟨stream.final_kind.trans u.final_kind.symm, ?_, ⟨_, _, _, hlast, hlast', rfl, rfl⟩, ?_⟩
    · rw [hs.final, hu.final]
      rfl
    · rw [hs.final, hu.final]
      exact ⟨fun _ => rfl, fun _ => rfl⟩

/-- The blanks between the tokens do not matter. A source that is read and
the one with other blanks have the same tokens, both are programs or neither
is, and the fault of the one has the cause of the other and stands at the
corresponding token, the end of the one being the end of the other. -/
theorem Program.check_of_respaced (source : Text) (stream : Stream)
    (h : tokenize source = .ok stream) (spacing : stream.Spacing) :
    ∃ respaced, tokenize spacing.spell = .ok respaced
      ∧ respaced.toList.map Token.kind = stream.toList.map Token.kind
      ∧ respaced.toList.map Token.lexeme = stream.toList.map Token.lexeme
      ∧ ((∃ r, check source = .ok r) ↔ ∃ r, check spacing.spell = .ok r)
      ∧ ∀ f g, check source = .error f → check spacing.spell = .error g →
          g.cause = f.cause ∧ stream.Correspond respaced f.position g.position
            ∧ (f.position = source.byteSize ↔ g.position = spacing.spell.byteSize) := by
  obtain ⟨respaced, hread, hkinds, hlexemes⟩ := tokenize_of_spacing h spacing
  have hsource := restores_of_tokenize h
  have htarget := restores_of_tokenize hread
  have hfinal : ∀ {α : Type} (part : Token → α),
      part (.endOfInput spacing.spell.byteSize) = part (.endOfInput source.byteSize) →
      respaced.body.map part = stream.body.map part →
      respaced.toList.map part = stream.toList.map part := by
    intro α part hlast hinit
    unfold Stream.toList
    rw [hsource.final, htarget.final, List.map_append, List.map_append, hinit]
    exact congrArg (fun last => _ ++ [last]) hlast
  refine ⟨respaced, hread, hfinal _ rfl hkinds, hfinal _ rfl hlexemes, ?_⟩
  have hparse := parse_alike (hsource.alike htarget hkinds hlexemes)
  rw [check_of_tokenize h, check_of_tokenize hread]
  generalize parse stream = x at hparse ⊢
  generalize parse respaced = y at hparse ⊢
  cases hparse with
  | ok =>
    refine ⟨⟨fun _ => ⟨_, rfl⟩, fun _ => ⟨_, rfl⟩⟩, ?_⟩
    intro f g hf
    cases hf
  | error hfg =>
    refine ⟨⟨?_, ?_⟩, ?_⟩
    · rintro ⟨_, ⟨⟩⟩
    · rintro ⟨_, ⟨⟩⟩
    intro f g hf hg
    cases hf
    cases hg
    exact ⟨hfg.cause.symm, hfg.position⟩

/-- A `No` and an open brace, with nothing between them or two blanks: the
block is found open at the end of the one source and of the other. -/
theorem Program.check_of_respaced_unclosed :
    tokenize "No\x7b"
        = .ok ⟨[.reading .otherwise "No" 0, .reading .openBrace "\x7b" 2], .endOfInput 3, rfl⟩
      ∧ check "No\x7b" = .error ⟨.unclosedBlock 1, 3⟩
      ∧ check "\nNo\t\t\x7b" = .error ⟨.unclosedBlock 1, 6⟩ := by
  have hno : Piece.IsWhole ⟨some .otherwise, "No"⟩ "\x7b" :=
    Piece.isWhole_otherwise (by decide +kernel)
  have hread : tokenize "No\x7b"
      = .ok ⟨[.reading .otherwise "No" 0, .reading .openBrace "\x7b" 2], .endOfInput 3, rfl⟩ :=
    tokenize_of_division (.cut hno (.cut (Piece.isWhole_openBrace []) .done))
  have hcheck : check "No\x7b" = .error ⟨.unclosedBlock 1, 3⟩ := by
    rw [check_of_tokenize hread]
    rfl
  obtain ⟨respaced, -, -, -, hverdict, hfault⟩ := check_of_respaced _ _ hread
    { lead := "\n"
      gaps := ["\t\t", ""]
      length_gaps := rfl
      lead_blank := List.all_eq_true.1 (by decide)
      gaps_blank := by
        have hall : List.all (["\t\t", ""] : List Text) (fun gap => gap.all isBlank) = true := by
          decide
        exact fun gap hgap => List.all_eq_true.1 (List.all_eq_true.1 hall gap hgap)
      apart := by
        intro i t ht hno hi
        match i with
        | 0 => decide
        | i + 1 => exact absurd hi (by simp) }
  refine ⟨hread, hcheck, ?_⟩
  cases hnew : check "\nNo\t\t\x7b" with
  | ok r =>
    obtain ⟨r', hr⟩ := hverdict.2 ⟨r, hnew⟩
    rw [hcheck] at hr
    cases hr
  | error g =>
    obtain ⟨hcause, -, hend⟩ := hfault _ g hcheck hnew
    obtain ⟨cause, position⟩ := g
    obtain rfl : cause = .unclosedBlock 1 := hcause
    obtain rfl : position = 6 := hend.1 rfl
    rfl

end Aula
