/-
The rules exclude each other: no text is fit for two of them
(`Rule.eq_of_scan`), so the order of the table decides nothing.

# How the pairs are told apart

Every rule but the one for assignments opens with a keyword, a sign or a
blank, and any two of these openings differ at some position: a
computation over the table (`table_areOpeningsApart`).

An assignment begins with any name, so it opens like the keywords do. It
is kept apart from them in two ways:

- After every keyword but `main` comes a character that no name goes on
  with, and the keyword (of `kiara.entrada` and `kiara.salida` the part
  before the point) is reserved. A name in front of the same text would
  be read up to that character, and would be the reserved word.
- `main` is not reserved. But behind it and its blanks there is a
  parenthesis, and behind a name and its blanks there is not.
-/
import Aula.Proofs.Pattern.Opening
import Aula.Proofs.Rule.Reading

namespace Aula

open Pattern (Word)
open Text (Continues)

/-- Where an opening names the classes of the first character, the text
goes on with one of them. -/
theorem Text.Opens.continues {ks : List CharClass} {rest : List (List CharClass)}
    {s : Text} (h : s.Opens (ks :: rest)) : Continues ks s := by
  cases s with
  | nil => exact absurd h id
  | cons c s => exact Text.continues_cons.2 h.1

/-- An opening is met at its first position. -/
theorem Text.Opens.head {ks : List CharClass} {rest : List (List CharClass)}
    {s : Text} (h : s.Opens (ks :: rest)) : s.Opens [ks] := by
  cases s with
  | nil => exact h
  | cons c s => exact ⟨h.1, trivial⟩

/-- A text that goes on with a character apart from a class goes on
outside it, or ends. -/
theorem Text.Continues.outside {ks : List CharClass} {k : CharClass} {s : Text}
    (h : Continues ks s) (hapart : CharClass.areApart ks [k] = true) :
    Continues [k.compl] s := by
  intro c hc
  refine ⟨_, List.mem_singleton_self _, ?_⟩
  have hnot := CharClass.not_has_of_areApart hapart (h c hc)
  rw [CharClass.has_compl, Bool.not_eq_true']
  exact Bool.eq_false_iff.2 fun hk => hnot ⟨k, List.mem_singleton_self k, hk⟩

namespace Pattern

/-- A spelled text is its only word. -/
theorem word_text_iff {word w : Text} : Word (.text word) w ↔ w = word := by
  constructor
  · intro h
    cases h
    rfl
  · rintro rfl
    exact .text w

/-- A word of two shapes in a row is two words. -/
theorem word_append_iff {p q : Pattern} {w : Text} :
    Word (p ++ q) w ↔ ∃ u v, w = u ++ v ∧ Word p u ∧ Word q v := by
  constructor
  · intro h
    cases h with
    | seq hu hv => exact ⟨_, _, rfl, hu, hv⟩
  · rintro ⟨u, v, rfl, hu, hv⟩
    exact .seq hu hv

/-- The words of three shapes in a row, however they are grouped. -/
theorem word_append_assoc {p q r : Pattern} {w : Text} :
    Word (p ++ q ++ r) w ↔ Word (p ++ (q ++ r)) w := by
  constructor
  · intro h
    cases h with
    | seq huv hr =>
      cases huv with
      | seq hp hq =>
        rw [List.append_assoc]
        exact .seq hp (.seq hq hr)
  · intro h
    cases h with
    | seq hp hqr =>
      cases hqr with
      | seq hq hr =>
        rw [← List.append_assoc]
        exact .seq (.seq hp hq) hr

end Pattern

namespace Rule

-- ======================================================== the openings

/-- How a text opens that the rule fits. -/
def opening (r : Rule) : List (List CharClass) := r.shape.opening []

/-- Of a rule that fits a text, the shape does. -/
theorem shape_scan {r : Rule} {s : Text} {n : Nat} (h : r.scan s = some n) :
    r.shape.scan s = some n :=
  (Option.filter_eq_some_iff.1 h).1

/-- Whether an opening spells the word and goes on with a character that
no name goes on with. -/
def spellsWhole (word : Text) (o : List (List CharClass)) : Bool :=
  o.take word.length = word.spelling
    ∧ ∃ ks ∈ (o.drop word.length).head?, CharClass.areApart ks [.nameRest] = true

/-- Two rules that do not read assignments open in different ways. -/
theorem table_areOpeningsApart :
    ∀ r₁ ∈ table, ∀ r₂ ∈ table, r₁.kind ≠ some .assignment →
      r₂.kind ≠ some .assignment → r₁.kind ≠ r₂.kind →
      areOpeningsApart r₁.opening r₂.opening = true := by
  decide +kernel

/-- A rule either opens unlike an assignment, or opens with a reserved
word or with `main`. -/
theorem table_opens_reserved :
    ∀ r ∈ table, areOpeningsApart r.opening (Shape.assignment.opening []) = true
      ∨ (∃ word ∈ Keyword.reserved, spellsWhole word r.opening = true)
      ∨ r.kind = some .otherwise ∨ r.kind = some .main ∨ r.kind = some .assignment := by
  decide +kernel

/-- A rule is determined by what it reads. -/
theorem table_kind_inj :
    ∀ r₁ ∈ table, ∀ r₂ ∈ table, r₁.kind = r₂.kind → r₁ = r₂ := by
  decide

-- ==================================================== names and keywords

/-- The text begins with a reserved word that does not go on as a longer
name. -/
def BeginsReserved (s : Text) : Prop :=
  ∃ word ∈ Keyword.reserved, ∃ rest, s = word ++ rest
    ∧ Continues [CharClass.nameRest.compl] rest

/-- A text that opens with a whole reserved word begins with it. -/
theorem beginsReserved_of_spellsWhole {word : Text} {o : List (List CharClass)}
    {s : Text} (hword : word ∈ Keyword.reserved) (ho : spellsWhole word o = true)
    (hs : s.Opens o) : BeginsReserved s := by
  unfold spellsWhole at ho
  obtain ⟨htake, ks, hks, hapart⟩ := of_decide_eq_true ho
  rw [← List.take_append_drop word.length o, htake] at hs
  obtain ⟨rest, rfl, hrest⟩ := Text.opens_spelling.1 hs
  refine ⟨word, hword, rest, rfl, ?_⟩
  cases hdrop : o.drop word.length with
  | nil => rw [hdrop] at hks; cases hks
  | cons ks' later =>
    rw [hdrop] at hks hrest
    cases hks
    exact hrest.continues.outside hapart

/-- A name goes on with word characters. -/
theorem nameRest_isWord {c : Char} (h : CharClass.nameRest.has c = true) :
    CharClass.wordCharacter.has c = true := by
  have hapart : CharClass.nameRest.isApart CharClass.wordCharacter.compl = true := by
    decide +kernel
  have hnot := CharClass.not_has_of_isApart hapart h
  rw [CharClass.has_compl] at hnot
  simpa using hnot

/-- Where `No` is read, it is a reserved word that does not go on. -/
theorem beginsReserved_of_otherwise {r : Rule} (hr : r ∈ table)
    (hkind : r.kind = some .otherwise) {s : Text} {n : Nat}
    (h : r.scan s = some n) : BeginsReserved s := by
  have htable : ∀ r ∈ table, r.kind = some .otherwise →
      r.shape = .text "No" ∧ r.wholeWord = true := by decide
  obtain ⟨hshape, hwhole⟩ := htable r hr hkind
  obtain ⟨-, hreads⟩ := reads_of_scan h
  have hword := hreads.word
  rw [hshape] at hword
  have htake : s.take n = "No" := Pattern.word_text_iff.1 hword
  refine ⟨"No", by decide, s.drop n, ?_, ?_⟩
  · rw [← htake, List.take_append_drop]
  · intro c hc
    refine ⟨_, List.mem_singleton_self _, ?_⟩
    rw [CharClass.has_compl, Bool.not_eq_true']
    have hends := hreads.ends hwhole
    refine Bool.eq_false_iff.2 fun hname => ?_
    cases hdrop : s.drop n with
    | nil => rw [hdrop] at hc; cases hc
    | cons d t =>
      rw [hdrop] at hc hends
      cases hc
      rw [Text.continuesWord, nameRest_isWord hname] at hends
      cases hends

/-- Every reserved word is an identifier. -/
theorem reserved_isIdentifier :
    ∀ word ∈ Keyword.reserved, Shape.identifier.covers word = true := by
  decide

/-- A whole text of a shape is a word of it. -/
theorem word_of_covers {p : Pattern} {s : Text} (h : p.covers s = true) :
    Word p s := by
  have hscan : p.scan s = some s.length := of_decide_eq_true h
  simpa using (Pattern.scan_sound hscan).2

/-- No name is in front of a text that begins with a reserved word. -/
theorem BeginsReserved.not_name {s : Text} (hs : BeginsReserved s) {w rest : Text}
    (hw : Word Shape.name w) (hrest : Continues [CharClass.nameRest.compl] rest) :
    s ≠ w ++ rest := by
  rintro rfl
  obtain ⟨word, hword, t, heq, ht⟩ := hs
  cases hw with
  | except hid hout =>
    have hdet : Shape.identifier.isDeterministic [CharClass.nameRest.compl] = true := by
      decide
    have hreserved := word_of_covers (reserved_isIdentifier word hword)
    obtain ⟨rfl, -⟩ := Word.append_inj hdet hid hreserved hrest ht heq
    exact hout hword

-- =========================================================== assignments

/-- What follows the name of an assignment and its blanks: an operator
or an equals sign. -/
def assignmentSign : List CharClass := [.arithmetic, .anyOf "="]

/-- An assignment is a name, blanks, and a sign with a value. -/
theorem assignment_inv {w : Text} (h : Word Shape.assignment w) (rest : Text) :
    ∃ name gap later, w ++ rest = name ++ (gap ++ later) ∧ Word Shape.name name
      ∧ Word Shape.blanks gap ∧ later.Opens [assignmentSign] := by
  unfold Shape.assignment at h
  simp only [Pattern.word_append_assoc] at h
  cases h with
  | @seq _ _ name _ hname h =>
    cases h with
    | @seq _ _ gap later hgap hlater =>
      have hopens := hlater.opens rest
      exact ⟨name, gap, later ++ rest, by simp, hname, hgap, hopens.head⟩

/-- No assignment is in front of a text that begins with a reserved
word. -/
theorem BeginsReserved.not_assignment {w : Text} (hw : Word Shape.assignment w)
    (rest : Text) : ¬ BeginsReserved (w ++ rest) := by
  intro hs
  obtain ⟨name, gap, later, heq, hname, hgap, hlater⟩ := assignment_inv hw rest
  rw [heq] at hs
  have hgoes : Continues (Shape.blanks.before assignmentSign) (gap ++ later) :=
    hgap.continues_append hlater.continues
  exact hs.not_name hname (hgoes.outside (by decide)) rfl

/-- No assignment is in front of a text with `main()` in front. -/
theorem main_not_assignment {r : Rule} (hr : r ∈ table) (hkind : r.kind = some .main)
    {w w' : Text} (hw : Word r.shape w) (hw' : Word Shape.assignment w')
    (rest rest' : Text) : w ++ rest ≠ w' ++ rest' := by
  intro heq
  have hshape : ∀ r ∈ table, r.kind = some .main →
      r.shape = "main" ++ Shape.blanks ++ "(" ++ Shape.blanks ++ ")" := by decide
  rw [hshape r hr hkind] at hw
  simp only [Pattern.word_append_assoc] at hw
  obtain ⟨name, gap', later', heq', hname, hgap', hlater'⟩ := assignment_inv hw' rest'
  cases hw with
  | @seq _ _ word _ hword hw =>
    cases hw with
    | @seq _ _ gap later hgap hlater =>
      have hopens : Text.Opens [[.anyOf "("]] (later ++ rest) :=
        (hlater.opens rest).head
      -- both texts begin with an identifier and blanks, so with the same
      have hmain : Word (Shape.identifier ++ Shape.blanks) (word ++ gap) := by
        have hid : Word Shape.identifier word := by
          rw [Pattern.word_text_iff.1 hword]
          exact word_of_covers (by decide)
        exact .seq hid hgap
      have hassigned : Word (Shape.identifier ++ Shape.blanks) (name ++ gap') := by
        cases hname with
        | except hid hout => exact .seq hid hgap'
      have hdet : (Shape.identifier ++ Shape.blanks).isDeterministic
          (.anyOf "(" :: assignmentSign) = true := by decide
      have hpieces : (word ++ gap) ++ (later ++ rest) = (name ++ gap') ++ later' := by
        rw [List.append_assoc, List.append_assoc, ← heq', ← heq]
        simp
      obtain ⟨-, hlater⟩ := Word.append_inj hdet hmain hassigned
        (hopens.continues.mono (by simp)) (hlater'.continues.mono (by simp)) hpieces
      rw [hlater] at hopens
      have hapart : areOpeningsApart [[CharClass.anyOf "("]] [assignmentSign] = true := by
        decide
      exact not_opens_of_areOpeningsApart hapart hopens hlater'

/-- No other rule fits a text that an assignment is in front of. -/
theorem eq_of_scan_assignment {r a : Rule} (hr : r ∈ table) (ha : a ∈ table)
    (hkind : a.kind = some .assignment) {s : Text} {n m : Nat}
    (hscan : r.scan s = some n) (hscan' : a.scan s = some m) : r = a := by
  have hshape : ∀ a ∈ table, a.kind = some .assignment → a.shape = Shape.assignment := by
    decide
  have hread := Pattern.scan_sound (shape_scan hscan)
  have hread' := Pattern.scan_sound (shape_scan hscan')
  rw [hshape a ha hkind] at hread'
  have hnot : ¬ BeginsReserved s := by
    have := BeginsReserved.not_assignment hread'.2 (s.drop m)
    rwa [List.take_append_drop] at this
  have hopens : s.Opens r.opening := Pattern.opens_of_scan (shape_scan hscan)
  rcases table_opens_reserved r hr with h | ⟨word, hword, h⟩ | h | h | h
  · have hopens' : s.Opens (Shape.assignment.opening []) := by
      rw [← hshape a ha hkind]
      exact Pattern.opens_of_scan (shape_scan hscan')
    exact absurd hopens' (not_opens_of_areOpeningsApart h hopens)
  · exact absurd (beginsReserved_of_spellsWhole hword h hopens) hnot
  · exact absurd (beginsReserved_of_otherwise hr h hscan) hnot
  · refine absurd ?_ (main_not_assignment hr h hread.2 hread'.2 (s.drop n) (s.drop m))
    rw [List.take_append_drop, List.take_append_drop]
  · exact table_kind_inj r hr a ha (h.trans hkind.symm)

-- ========================================================== at most one

/-- At most one rule of the table fits a text. -/
theorem eq_of_scan {r₁ r₂ : Rule} (hr₁ : r₁ ∈ table) (hr₂ : r₂ ∈ table) {s : Text}
    {n₁ n₂ : Nat} (h₁ : r₁.scan s = some n₁) (h₂ : r₂.scan s = some n₂) : r₁ = r₂ := by
  by_cases ha₁ : r₁.kind = some .assignment
  · exact (eq_of_scan_assignment hr₂ hr₁ ha₁ h₂ h₁).symm
  · by_cases ha₂ : r₂.kind = some .assignment
    · exact eq_of_scan_assignment hr₁ hr₂ ha₂ h₁ h₂
    · by_cases hkind : r₁.kind = r₂.kind
      · exact table_kind_inj r₁ hr₁ r₂ hr₂ hkind
      · have hapart := table_areOpeningsApart r₁ hr₁ r₂ hr₂ ha₁ ha₂ hkind
        exact absurd (Pattern.opens_of_scan (shape_scan h₂))
          (not_opens_of_areOpeningsApart hapart (Pattern.opens_of_scan (shape_scan h₁)))

end Rule

end Aula
