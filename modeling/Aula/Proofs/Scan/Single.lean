/-
Sources that are one token.

A word of a rule is read as one token, which is all of it
(`tokenize_of_word`). The other way, a source that is read as one token may
have blanks around it, and nothing else: trimmed, it is a word of the rule of
that kind (`isSingle_iff`). So to say that a text is read as one statement is to
say that it has the shape of that statement.
-/
import Aula.Proofs.Scan.Lossless

namespace Aula

open Pattern (Word)
open Rule (table)

/-- The stream of a source that is one token from its first character to its
last. -/
def Stream.single (kind : Kind) (source : Text) : Stream :=
  ⟨[.reading kind source 0], .endOfInput source.byteSize, rfl⟩

/-- The source is read as one token of the given kind. -/
def IsSingle (kind : Kind) (source : Text) : Prop :=
  ∃ stream, tokenize source = .ok stream ∧ stream.body.map Token.kind = [kind]

/-- A token is a word of the rule of its kind. -/
theorem exists_rule_of_tokenize {source : Text} {stream : Stream}
    (hread : tokenize source = .ok stream) {t : Token} (ht : t ∈ stream.body) :
    ∃ r ∈ table, r.kind = some t.kind ∧ Word r.shape t.lexeme := by
  obtain ⟨ps, hps⟩ := division_of_tokenize hread
  rw [tokenize_of_division hps] at hread
  obtain rfl := Except.ok.inj hread
  exact hps.exists_rule 0 t ht

/-- A layout of one token can be read back. -/
theorem Layout.readable_singleton (e : Entry) : Readable [e] := by
  refine ⟨fun _ => ?_, trivial⟩
  show Text.continuesWord (e.gap ++ []) = false
  rw [List.append_nil]
  cases hgap : e.gap with
  | nil => rfl
  | cons c gap =>
    have hc : isBlank c = true := e.gap_blank c (by rw [hgap]; exact List.mem_cons_self ..)
    exact Rule.not_continuesWord_of_blank hc gap

/-- The rule for assignments. -/
theorem Rule.exists_assignment :
    ∃ r ∈ table, r.kind = some .assignment ∧ r.shape = Shape.assignment := by
  decide

section

variable {r : Rule} (hr : r ∈ table) {kind : Kind} (hkind : r.kind = some kind)
include hr hkind

/-- A word of a rule is read as one token, with blanks around it or none. -/
theorem tokenize_of_word_between {lead w gap : Text} (hlead : ∀ c ∈ lead, isBlank c = true)
    (h : Word r.shape w) (hgap : ∀ c ∈ gap, isBlank c = true) :
    tokenize (lead ++ (w ++ gap))
      = .ok ⟨[.reading kind w lead.byteSize], .endOfInput (lead ++ (w ++ gap)).byteSize, rfl⟩ := by
  let e : Layout.Entry := ⟨kind, w, gap, ⟨r, hr, hkind, h⟩, hgap⟩
  have hread := Layout.tokenize_of_readable (l := ⟨lead, hlead, [e]⟩) (Layout.readable_singleton e)
  have hspell : Layout.spell ⟨lead, hlead, [e]⟩ = lead ++ (w ++ gap) :=
    congrArg (lead ++ ·) (List.append_nil _)
  rw [hspell] at hread
  exact hread

/-- A word of a rule is read as one token, which is all of it. -/
theorem tokenize_of_word {w : Text} (h : Word r.shape w) :
    tokenize w = .ok (.single kind w) := by
  have hnil : ∀ c ∈ ([] : Text), isBlank c = true := List.forall_mem_nil _
  have hread := tokenize_of_word_between hr hkind hnil h hnil
  rw [List.nil_append, List.append_nil] at hread
  exact hread

/-- A source is one token of a kind if, trimmed, it is a word of the rule of that
kind. -/
theorem isSingle_iff {source : Text} : IsSingle kind source ↔ Word r.shape source.trim := by
  constructor
  · intro h
    obtain ⟨stream, hread, hkinds⟩ := h
    obtain ⟨l, rfl, rfl⟩ := Layout.exists_of_tokenize hread
    obtain ⟨lead, hlead, es⟩ := l
    cases es with
    | nil => cases hkinds
    | cons e es =>
      obtain ⟨hkind', hes⟩ := List.cons.inj hkinds
      obtain rfl : es = [] := by
        cases es with
        | nil => rfl
        | cons e' es => cases hes
      obtain ⟨r', hr', hrule, hword⟩ := e.word
      have hsome : r'.kind = r.kind := by rw [hrule, hkind]; exact congrArg some hkind'
      obtain rfl := Rule.table_kind_inj r' hr' r hr hsome
      have htrim := Rule.trim_word hr (by rw [hkind]; exact Option.some_ne_none kind) hword
      show Word r'.shape (lead ++ (e.text ++ e.gap ++ [])).trim
      rw [Text.trim_blank_append hlead, List.append_nil, Text.trim_append_blank _ e.gap_blank,
        htrim]
      exact hword
  · intro h
    obtain ⟨a, b, heq, ha, hb⟩ := source.exists_eq_trim
    have hread := tokenize_of_word_between hr hkind ha h hb
    rw [← heq] at hread
    exact ⟨_, hread, rfl⟩

end

end Aula
