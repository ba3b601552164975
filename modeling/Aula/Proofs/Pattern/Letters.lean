/-
Letters: which characters a word may hold, and which may end it.

`letters` is the reading of a pattern that forgets all order. To learn
how a word ends, the pattern is turned around (`mirror`): its words are
the words read backwards, so a word ends as a mirrored word begins, and
`first` answers again.
-/
import Aula.Proofs.Pattern.Determinism

namespace Aula.Pattern

open CharClass (areApart)

-- ========================================================== repetitions

/-- Two runs of pieces are one run. -/
theorem Word.many_append {p : Pattern} {u v : Text} (hu : Word (many p) u)
    (hv : Word (many p) v) : Word (many p) (u ++ v) := by
  generalize hm : many p = m at hu
  induction hu with
  | text | one | seq | first | second | except => cases hm
  | stop =>
    cases hm
    exact hv
  | @step q u₁ u₂ h₁ h₂ _ ih =>
    cases hm
    rw [List.append_assoc]
    exact .step h₁ (ih rfl)

/-- One piece is a run. -/
theorem Word.many_single {p : Pattern} {w : Text} (h : Word p w) : Word (many p) w := by
  have hrun := Word.step h .stop
  rwa [List.append_nil] at hrun

/-- Any number of runs are one run. -/
theorem Word.many_flatten {p : Pattern} {ws : List Text} (h : ∀ w ∈ ws, Word (many p) w) :
    Word (many p) ws.flatten := by
  induction ws with
  | nil => exact .stop
  | cons w ws ih =>
    obtain ⟨hw, hws⟩ := List.forall_mem_cons.1 h
    exact hw.many_append (ih hws)

/-- So they are with a run between each two of them. -/
theorem Word.many_intercalate {p : Pattern} {between : Text} (hb : Word (many p) between)
    {ws : List Text} (h : ∀ w ∈ ws, Word (many p) w) :
    Word (many p) (between.intercalate ws) := by
  induction ws with
  | nil => exact .stop
  | cons w ws ih =>
    obtain ⟨hw, hws⟩ := List.forall_mem_cons.1 h
    cases ws with
    | nil => rwa [List.intercalate_singleton]
    | cons w' ws =>
      rw [List.intercalate_cons_cons]
      exact (hw.many_append hb).many_append (ih hws)

/-- A run of pieces is a run of the pieces of a wider pattern. -/
theorem Word.many_mono {p q : Pattern} (hpq : ∀ u, Word p u → Word q u) {w : Text}
    (h : Word (many p) w) : Word (many q) w := by
  generalize hm : many p = m at h
  induction h with
  | text | one | seq | first | second | except => cases hm
  | stop => exact .stop
  | step hu _ _ ihv =>
    cases hm
    exact .step (hpq _ hu) (ihv rfl)

-- ============================================================== letters

/-- The classes of the characters that a word may hold. -/
def letters : Pattern → List CharClass
  | text word => [.anyOf word]
  | one kind => [kind]
  | seq p q => p.letters ++ q.letters
  | alt p q => p.letters ++ q.letters
  | many p => p.letters
  | except p _ => p.letters

/-- A word holds characters of these classes only. -/
theorem Word.letters_has {p : Pattern} {w : Text} (h : Word p w) :
    ∀ c ∈ w, ∃ k ∈ p.letters, k.has c = true := by
  induction h with
  | text word =>
    exact fun c hc => ⟨_, List.mem_singleton_self _, CharClass.has_anyOf.2 hc⟩
  | one h =>
    intro c hc
    rw [List.mem_singleton.1 hc]
    exact ⟨_, List.mem_singleton_self _, h⟩
  | seq hu hv ihu ihv =>
    intro c hc
    rcases List.mem_append.1 hc with hc | hc
    · obtain ⟨k, hk, hkc⟩ := ihu c hc
      exact ⟨k, List.mem_append_left _ hk, hkc⟩
    · obtain ⟨k, hk, hkc⟩ := ihv c hc
      exact ⟨k, List.mem_append_right _ hk, hkc⟩
  | first h ih =>
    intro c hc
    obtain ⟨k, hk, hkc⟩ := ih c hc
    exact ⟨k, List.mem_append_left _ hk, hkc⟩
  | second h ih =>
    intro c hc
    obtain ⟨k, hk, hkc⟩ := ih c hc
    exact ⟨k, List.mem_append_right _ hk, hkc⟩
  | stop => exact fun c hc => absurd hc List.not_mem_nil
  | step hu hv ihu ihv =>
    intro c hc
    exact (List.mem_append.1 hc).elim (ihu c) (ihv c)
  | except h hw ih => exact ih

/-- A word whose letters are apart from a class holds none of it. -/
theorem Word.not_has {p : Pattern} {w : Text} (h : Word p w) {k : CharClass}
    (hapart : areApart p.letters [k] = true) {c : Char} (hc : c ∈ w) :
    k.has c = false := by
  have hnot := CharClass.not_has_of_areApart hapart (h.letters_has c hc)
  exact Bool.eq_false_iff.2 fun hk => hnot ⟨k, List.mem_singleton_self k, hk⟩

/-- The same of listed characters. -/
theorem Word.not_mem {p : Pattern} {w : Text} (h : Word p w) {marks : Text}
    (hapart : areApart p.letters [.anyOf marks] = true) : ∀ c ∈ w, c ∉ marks := by
  intro c hc hmem
  have hnot := h.not_has hapart hc
  rw [CharClass.has_anyOf.2 hmem] at hnot
  cases hnot

-- =============================================================== mirror

/-- The pattern of the words read backwards. -/
def mirror : Pattern → Pattern
  | text word => text word.reverse
  | one kind => one kind
  | seq p q => seq q.mirror p.mirror
  | alt p q => alt p.mirror q.mirror
  | many p => many p.mirror
  | except p words => except p.mirror (words.map List.reverse)

/-- A word read backwards is a word of the mirrored pattern. -/
theorem Word.mirror {p : Pattern} {w : Text} (h : Word p w) :
    Word p.mirror w.reverse := by
  induction h with
  | text word => exact .text word.reverse
  | one h => exact .one h
  | seq hu hv ihu ihv =>
    rw [List.reverse_append]
    exact .seq ihv ihu
  | first h ih => exact .first ih
  | second h ih => exact .second ih
  | stop => exact .stop
  | step hu hv ihu ihv =>
    rw [List.reverse_append]
    exact ihv.many_append ihu.many_single
  | except h hw ih =>
    refine .except ih fun hmem => hw ?_
    obtain ⟨word, hword, heq⟩ := List.mem_map.1 hmem
    rwa [← List.reverse_inj.1 heq]

/-- A word begins outside a class that its first characters are apart
from. -/
theorem Word.head?_not_has {p : Pattern} {w : Text} (h : Word p w) {k : CharClass}
    (hapart : areApart p.first [k] = true) : ∀ c ∈ w.head?, k.has c = false := by
  intro c hc
  cases w with
  | nil => cases hc
  | cons d w =>
    cases hc
    have hnot := CharClass.not_has_of_areApart hapart h.first_has
    exact Bool.eq_false_iff.2 fun hk => hnot ⟨k, List.mem_singleton_self k, hk⟩

/-- A word ends outside a class that the first characters of the mirrored
pattern are apart from. -/
theorem Word.getLast?_not_has {p : Pattern} {w : Text} (h : Word p w) {k : CharClass}
    (hapart : areApart p.mirror.first [k] = true) :
    ∀ c ∈ w.getLast?, k.has c = false := by
  rw [List.getLast?_eq_head?_reverse]
  exact h.mirror.head?_not_has hapart

end Aula.Pattern
