/-
The algebra of languages: when two shapes written differently have the
same words.

Blanks can be written down at the end of the word they follow, or at
the front of the word behind. The words of a statement do not depend on
it, although the way they are read does. So that this need not be argued
on words, the language of a pattern is taken as a `Language`, on which
shapes in a row multiply, alternatives add, and a repetition is the
Kleene star (`language_append`, `language_or`, `language_many`). What is
left are three equations of Kleene algebra, which move a factor out of a
star, an option and a separated list.
-/
import Aula.Proofs.Pattern.Pieces
import Mathlib.Computability.Language

namespace Aula

open scoped Computability

-- ===================================================== moving a factor

section Kleene

variable {α : Type} [KleeneAlgebra α]

/-- The factor behind a star slides to the front. -/
theorem kstar_mul_slide (a b : α) : (a * b)∗ * a = a * (b * a)∗ := by
  refine le_antisymm (kstar_mul_le ?_ ?_) (mul_kstar_le ?_ ?_)
  · calc a = a * 1 := (mul_one a).symm
      _ ≤ a * (b * a)∗ := mul_right_mono one_le_kstar
  · calc a * b * (a * (b * a)∗) = a * (b * a * (b * a)∗) := by simp only [mul_assoc]
      _ ≤ a * (b * a)∗ := mul_right_mono mul_kstar_le_kstar
  · calc a = 1 * a := (one_mul a).symm
      _ ≤ (a * b)∗ * a := mul_left_mono one_le_kstar
  · calc (a * b)∗ * a * (b * a) = (a * b)∗ * (a * b) * a := by simp only [mul_assoc]
      _ ≤ (a * b)∗ * a := mul_left_mono kstar_mul_le_kstar

/-- What stands behind each member of a separated list stands in front of
each separator, and behind the list. -/
theorem mul_kstar_separated (x b o : α) :
    x * b * (o * (x * b))∗ = x * (b * o * x)∗ * b := by
  calc x * b * (o * (x * b))∗ = x * (b * (o * x * b)∗) := by simp only [mul_assoc]
    _ = x * ((b * (o * x))∗ * b) := by rw [kstar_mul_slide]
    _ = x * (b * o * x)∗ * b := by simp only [mul_assoc]

/-- Between two `b`, what may be left out takes one along or leaves it
behind, if two of them are one. -/
theorem mul_option_mul {b : α} (hb : b * b = b) (x y : α) :
    b * ((x * b + 1) * y) = b * ((x + 1) * (b * y)) := by
  calc b * ((x * b + 1) * y) = b * x * b * y + b * y := by
        simp only [mul_add, add_mul, one_mul, mul_assoc]
    _ = b * x * b * y + b * b * y := by rw [hb]
    _ = b * ((x + 1) * (b * y)) := by
        simp only [mul_add, add_mul, one_mul, mul_assoc]

end Kleene

-- =========================================================== languages

namespace Pattern

/-- The words of a pattern, as a language. -/
def language (p : Pattern) : Language Char := {w | Word p w}

theorem mem_language_iff {p : Pattern} {w : Text} : w ∈ p.language ↔ Word p w := Iff.rfl

/-- Shapes in a row multiply. -/
theorem language_append (p q : Pattern) : (p ++ q).language = p.language * q.language := by
  ext w
  rw [mem_language_iff, word_append_iff, Language.mem_mul]
  constructor
  · rintro ⟨u, v, rfl, hu, hv⟩
    exact ⟨u, hu, v, hv, rfl⟩
  · rintro ⟨u, hu, v, hv, rfl⟩
    exact ⟨u, v, rfl, hu, hv⟩

/-- Alternatives add. -/
theorem language_or (p q : Pattern) : (p ||| q).language = p.language + q.language := by
  ext w
  rw [mem_language_iff, word_or_iff, Language.mem_add]
  rfl

/-- Of the empty text, only the empty word is left. -/
theorem language_nil : (text []).language = 1 := by
  ext w
  rw [mem_language_iff, word_text_iff, Language.mem_one]

/-- What may be left out adds the empty word. -/
theorem language_opt (p : Pattern) : (opt p).language = p.language + 1 := by
  rw [opt, language_or, language_nil]

/-- A repetition is a star. -/
theorem language_many (p : Pattern) : (many p).language = p.language∗ := by
  ext w
  have hpieces : ∀ u, Word p u ↔ ∃ v, v ∈ p.language ∧ u = id v := fun u =>
    ⟨fun h => ⟨u, h, rfl⟩, fun ⟨_, hv, heq⟩ => heq ▸ hv⟩
  rw [mem_language_iff, word_many_iff hpieces, Language.mem_kstar]
  constructor
  · rintro ⟨us, hus, rfl⟩
    exact ⟨us, List.flatMap_id, hus⟩
  · rintro ⟨us, rfl, hus⟩
    exact ⟨us, hus, (List.flatMap_id).symm⟩

/-- Any number of pieces is at least one, or none. -/
theorem language_oneOrMore (p : Pattern) :
    (oneOrMore p).language + 1 = (many p).language := by
  rw [oneOrMore, language_append, language_many, add_comm, one_add_mul_kstar]

end Pattern

end Aula
