/-
A repetition as the list of its pieces.

The language of `many p` is defined from the front, one piece after the
other. A grammar is easier to talk about when all its pieces are at hand at
once, so here they are taken apart into a list. What the list holds is up to
the reader of the pieces: if a piece is written from some value, the
repetition is written from a list of values (`word_many_iff`), and what
stands between separators is a list of what is separated
(`word_list_iff`).
-/
import Aula.Proofs.Rule.Exclusion

namespace Aula.Pattern

/-- The words of a choice are the words of its sides. -/
theorem word_or_iff {p q : Pattern} {w : Text} :
    Word (p ||| q) w ↔ Word p w ∨ Word q w := by
  constructor
  · intro h
    cases h with
    | first h => exact .inl h
    | second h => exact .inr h
  · intro h
    rcases h with h | h
    · exact .first h
    · exact .second h

/-- Wider shapes in a row have the words of narrower ones. -/
theorem Word.append_mono {p p' q q' : Pattern} (hp : ∀ u, Word p u → Word p' u)
    (hq : ∀ u, Word q u → Word q' u) {w : Text} (h : Word (p ++ q) w) : Word (p' ++ q') w := by
  obtain ⟨u, v, rfl, hu, hv⟩ := word_append_iff.1 h
  exact .seq (hp u hu) (hq v hv)

/-- A shape is wider than any of its words. -/
theorem Word.of_text {p : Pattern} {w : Text} (h : Word p w) :
    ∀ u, Word (.text w) u → Word p u := by
  intro u hu
  rwa [word_text_iff.1 hu]

section Pieces

variable {α : Type} {p : Pattern} {spell : α → Text} {valid : α → Prop}
  (hp : ∀ u, Word p u ↔ ∃ a, valid a ∧ u = spell a)
include hp

/-- Where pieces spell values, a repetition spells a list of them. -/
theorem word_many_iff {w : Text} :
    Word (many p) w ↔ ∃ l : List α, (∀ a ∈ l, valid a) ∧ w = l.flatMap spell := by
  constructor
  · intro h
    generalize hm : many p = m at h
    induction h with
    | text | one | seq | first | second | except => cases hm
    | stop => exact ⟨[], List.forall_mem_nil _, rfl⟩
    | @step q u v hu _ _ ihv =>
      cases hm
      obtain ⟨a, ha, rfl⟩ := (hp u).1 hu
      obtain ⟨l, hl, rfl⟩ := ihv rfl
      exact ⟨a :: l, List.forall_mem_cons.2 ⟨ha, hl⟩, List.flatMap_cons.symm⟩
  · intro h
    obtain ⟨l, hl, rfl⟩ := h
    induction l with
    | nil => exact .stop
    | cons a l ih =>
      obtain ⟨ha, hl⟩ := List.forall_mem_cons.1 hl
      rw [List.flatMap_cons]
      exact .step ((hp _).2 ⟨a, ha, rfl⟩) (ih hl)

/-- At least one piece spells a list that is not empty. -/
theorem word_oneOrMore_iff {w : Text} :
    Word (oneOrMore p) w
      ↔ ∃ l : List α, l ≠ [] ∧ (∀ a ∈ l, valid a) ∧ w = l.flatMap spell := by
  unfold oneOrMore
  rw [word_append_iff]
  constructor
  · intro h
    obtain ⟨u, v, rfl, hu, hv⟩ := h
    obtain ⟨a, ha, rfl⟩ := (hp u).1 hu
    obtain ⟨l, hl, rfl⟩ := (word_many_iff hp).1 hv
    exact ⟨a :: l, List.cons_ne_nil a l, List.forall_mem_cons.2 ⟨ha, hl⟩,
      List.flatMap_cons.symm⟩
  · intro h
    obtain ⟨l, hne, hl, rfl⟩ := h
    obtain ⟨a, l, rfl⟩ := List.exists_cons_of_ne_nil hne
    obtain ⟨ha, hl⟩ := List.forall_mem_cons.1 hl
    exact ⟨spell a, l.flatMap spell, List.flatMap_cons, (hp _).2 ⟨a, ha, rfl⟩,
      (word_many_iff hp).2 ⟨l, hl, rfl⟩⟩

end Pieces

/-- The separator stands in front of every piece but the first. -/
theorem intercalate_cons (separator u : Text) (us : List Text) :
    separator.intercalate (u :: us) = u ++ us.flatMap (separator ++ ·) := by
  induction us generalizing u with
  | nil => simp
  | cons v us ih =>
    rw [List.intercalate_cons_cons, ih, List.flatMap_cons]
    simp only [List.append_assoc]

section Lists

variable {p : Pattern} {separator : Text}

/-- A separator and what is behind it. -/
theorem word_separated_iff (u : Text) :
    Word (.text separator ++ p) u ↔ ∃ v, Word p v ∧ u = separator ++ v := by
  rw [word_append_iff]
  constructor
  · intro h
    obtain ⟨_, v, rfl, hs, hv⟩ := h
    exact ⟨v, hv, by rw [word_text_iff.1 hs]⟩
  · intro h
    obtain ⟨v, hv, rfl⟩ := h
    exact ⟨separator, v, rfl, .text separator, hv⟩

/-- Pieces with a separator between each two of them are a list. -/
theorem word_list_iff {w : Text} :
    Word (p ++ many (.text separator ++ p)) w
      ↔ ∃ us : List Text, us ≠ [] ∧ (∀ u ∈ us, Word p u) ∧ w = separator.intercalate us := by
  rw [word_append_iff]
  constructor
  · intro h
    obtain ⟨u, v, rfl, hu, hv⟩ := h
    obtain ⟨us, hus, rfl⟩ := (word_many_iff word_separated_iff).1 hv
    exact ⟨u :: us, List.cons_ne_nil u us, List.forall_mem_cons.2 ⟨hu, hus⟩,
      (intercalate_cons separator u us).symm⟩
  · intro h
    obtain ⟨us, hne, hus, rfl⟩ := h
    obtain ⟨u, us, rfl⟩ := List.exists_cons_of_ne_nil hne
    obtain ⟨hu, hus⟩ := List.forall_mem_cons.1 hus
    exact ⟨u, _, intercalate_cons separator u us, hu,
      (word_many_iff word_separated_iff).2 ⟨us, hus, rfl⟩⟩

/-- Where there has to be a separator, there are two pieces or more. -/
theorem word_joined_iff {w : Text} :
    Word (p ++ oneOrMore (.text separator ++ p)) w
      ↔ ∃ us : List Text, 1 < us.length ∧ (∀ u ∈ us, Word p u)
        ∧ w = separator.intercalate us := by
  rw [word_append_iff]
  constructor
  · intro h
    obtain ⟨u, v, rfl, hu, hv⟩ := h
    obtain ⟨us, hne, hus, rfl⟩ := (word_oneOrMore_iff word_separated_iff).1 hv
    have hlength := List.length_pos_iff.2 hne
    exact ⟨u :: us, by rw [List.length_cons]; omega, List.forall_mem_cons.2 ⟨hu, hus⟩,
      (intercalate_cons separator u us).symm⟩
  · intro h
    obtain ⟨us, hlength, hus, rfl⟩ := h
    obtain ⟨u, us, rfl⟩ := List.exists_cons_of_length_pos (Nat.zero_lt_of_lt hlength)
    obtain ⟨hu, hus⟩ := List.forall_mem_cons.1 hus
    have hne : us ≠ [] := by
      rintro rfl
      exact absurd hlength (Nat.lt_irrefl 1)
    exact ⟨u, _, intercalate_cons separator u us, hu,
      (word_oneOrMore_iff word_separated_iff).2 ⟨us, hne, hus, rfl⟩⟩

end Lists

end Aula.Pattern
