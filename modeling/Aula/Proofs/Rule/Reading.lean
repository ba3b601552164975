/-
What the rules read: each token rule decides its language, and the rule
for blanks reads a whole run of them.

A rule reads a word before what follows it (`Rule.Reads`) if the word is
one of its shape and, where the rule wants a whole word, no word
character comes next. Reading is sound by `scan_sound`. It is complete
because every shape of a token is deterministic before any text, which
is a computation over the table (`table_isDeterministic`); so what
follows a token never changes how much of the text is read.
-/
import Aula.Proofs.Pattern.Determinism
import Aula.Rule

namespace Aula

open Pattern (Word)
open Text (Continues)

namespace Rule

/-- The rule has the word, and may read it where the given text
follows. -/
structure Reads (r : Rule) (w rest : Text) : Prop where
  word : Word r.shape w
  ends : r.wholeWord = true → Text.continuesWord rest = false

-- ============================================================= the table

/-- One character decides every choice in the shape of a token, whatever
follows it. -/
theorem table_isDeterministic :
    ∀ r ∈ table, r.kind ≠ none → r.shape.isDeterministic [.all] = true := by
  decide

/-- No rule reads the empty text. -/
theorem table_not_nullable : ∀ r ∈ table, r.shape.nullable = false := by
  decide

/-- The rule for blanks is the only one without a kind. -/
theorem table_blank : ∀ r ∈ table, r.kind = none →
    r.shape = Shape.gap ∧ r.wholeWord = false := by
  decide

/-- No token is an end of input. -/
theorem table_not_endOfInput : ∀ r ∈ table, r.kind ≠ some .endOfInput := by
  decide

/-- Only `No` has to be a whole word. -/
theorem table_wholeWord : ∀ r ∈ table, r.wholeWord = true →
    r.kind = some .otherwise := by
  decide

/-- An opening brace is always the same text. -/
theorem table_openBrace : ∀ r ∈ table, r.kind = some .openBrace →
    r.shape = .text "\x7b" := by
  decide

-- =============================================================== tokens

/-- The words of a rule are not empty. -/
theorem Reads.ne_nil {r : Rule} (hr : r ∈ table) {w rest : Text}
    (h : r.Reads w rest) : w ≠ [] := by
  intro hnil
  have hword := h.word
  rw [hnil] at hword
  have := hword.nullable
  rw [table_not_nullable r hr] at this
  cases this

/-- What a rule reads is one of its words, and may be read there. -/
theorem reads_of_scan {r : Rule} {s : Text} {n : Nat} (h : r.scan s = some n) :
    n ≤ s.length ∧ r.Reads (s.take n) (s.drop n) := by
  obtain ⟨hscan, hends⟩ := Option.filter_eq_some_iff.1 h
  obtain ⟨hle, hword⟩ := Pattern.scan_sound hscan
  refine ⟨hle, hword, fun hwhole => ?_⟩
  simpa [hwhole] using hends

/-- A rule reads a word that its shape reads whole. -/
theorem Reads.scan_of_shape {r : Rule} {w rest : Text} (h : r.Reads w rest)
    (hscan : r.shape.scan (w ++ rest) = some w.length) : r.scan (w ++ rest) = some w.length := by
  unfold Rule.scan
  rw [hscan, Option.filter_some, List.drop_left, if_pos]
  cases hwhole : r.wholeWord with
  | false => rfl
  | true => rw [h.ends hwhole]; rfl

/-- A token rule reads each of its words whole, and no more. -/
theorem Reads.scan_append {r : Rule} (hr : r ∈ table) (hkind : r.kind ≠ none)
    {w rest : Text} (h : r.Reads w rest) : r.scan (w ++ rest) = some w.length :=
  h.scan_of_shape
    (Pattern.scan_append (table_isDeterministic r hr hkind) h.word (Text.continues_all rest))

-- =============================================================== blanks

/-- A repeated class has the texts of its characters for words. -/
theorem word_many_one_iff {k : CharClass} {w : Text} :
    Word (.many (.one k)) w ↔ ∀ c ∈ w, k.has c = true := by
  constructor
  · intro h
    generalize hm : Pattern.many (.one k) = m at h
    induction h with
    | text | one | seq | first | second | except => cases hm
    | stop => intro c hc; cases hc
    | step hu hv _ ihv =>
      cases hm
      cases hu with
      | one hd =>
        intro c hc
        rcases List.mem_cons.1 hc with rfl | hc
        · exact hd
        · exact ihv rfl c hc
  · intro h
    induction w with
    | nil => exact .stop
    | cons c w ih =>
      have hc : Word (.one k) [c] := .one (h c (List.mem_cons_self ..))
      exact .step hc (ih fun d hd => h d (List.mem_cons_of_mem c hd))

/-- The words of a gap are the runs of blanks. -/
theorem word_gap_iff {w : Text} :
    Word Shape.gap w ↔ w ≠ [] ∧ ∀ c ∈ w, isBlank c = true := by
  constructor
  · intro h
    cases h with
    | seq hu hv =>
      cases hu with
      | one hc =>
        refine ⟨List.cons_ne_nil _ _, fun d hd => ?_⟩
        rcases List.mem_cons.1 hd with rfl | hd
        · exact hc
        · exact word_many_one_iff.1 hv d hd
  · intro h
    obtain ⟨hne, h⟩ := h
    cases w with
    | nil => exact absurd rfl hne
    | cons c w =>
      have hc : Word (.one .blank) [c] := .one (h c (List.mem_cons_self ..))
      exact .seq hc (word_many_one_iff.2 fun d hd => h d (List.mem_cons_of_mem c hd))

/-- A blank is not a word character. -/
theorem blank_areApart_wordCharacter :
    CharClass.areApart [.blank] [.wordCharacter] = true := by
  decide +kernel

/-- A text that begins with a blank does not go on with a word
character. -/
theorem not_continuesWord_of_blank {c : Char} (h : isBlank c = true) (s : Text) :
    Text.continuesWord (c :: s) = false := by
  have hnot := CharClass.not_has_of_areApart blank_areApart_wordCharacter
    ⟨_, List.mem_singleton_self _, h⟩
  exact Bool.eq_false_iff.2 fun hc => hnot ⟨_, List.mem_singleton_self _, hc⟩

/-- Behind the blanks in front, the text ends or goes on without a
blank. -/
theorem continues_dropWhile (s : Text) :
    Continues [CharClass.blank.compl] (s.dropWhile isBlank) := by
  intro c hc
  refine ⟨_, List.mem_singleton_self _, ?_⟩
  rw [CharClass.has_compl, Bool.not_eq_true']
  have hhead := List.head?_dropWhile_not isBlank s
  rw [Option.mem_def.1 hc] at hhead
  exact hhead

/-- The rule for blanks reads all the blanks in front, if there are
any. -/
theorem scan_blank {r : Rule} (hr : r ∈ table) (hkind : r.kind = none) {s : Text}
    (hs : s.takeWhile isBlank ≠ []) :
    r.scan s = some (s.takeWhile isBlank).length := by
  obtain ⟨hshape, hwhole⟩ := table_blank r hr hkind
  have hword : Word Shape.gap (s.takeWhile isBlank) :=
    word_gap_iff.2 ⟨hs, List.all_eq_true.1 List.all_takeWhile⟩
  have hdet : Shape.gap.isDeterministic [CharClass.blank.compl] = true := by decide
  have hscan := Pattern.scan_append hdet hword (continues_dropWhile s)
  rw [List.takeWhile_append_dropWhile] at hscan
  unfold Rule.scan
  rw [hshape, hscan, hwhole]
  rfl

end Rule

end Aula
