/-
Trimming takes blanks away at the ends and nothing else
(`exists_eq_trim`), and takes nothing from a text that begins and ends
with other characters (`trim_eq_self`).
-/
import Aula.Text.Blank
import Mathlib.Data.List.DropRight

namespace Aula.Text

/-- Trimming at the end leaves what stands before the last blanks. -/
theorem trimEnd_eq_rdropWhile (s : Text) : s.trimEnd = s.rdropWhile isBlank := rfl

/-- A text that begins without a blank keeps its beginning. -/
theorem trimStart_eq_self {s : Text} (h : ∀ c ∈ s.head?, isBlank c = false) :
    s.trimStart = s := by
  cases s with
  | nil => rfl
  | cons c s => exact List.dropWhile_cons_of_neg (by simp [h c rfl])

/-- A text that ends without a blank keeps its end. -/
theorem trimEnd_eq_self {s : Text} (h : ∀ c ∈ s.getLast?, isBlank c = false) :
    s.trimEnd = s := by
  rw [trimEnd_eq_rdropWhile, List.rdropWhile_eq_self_iff]
  intro hne
  have hlast := h _ (List.getLast?_eq_some_getLast hne)
  simp [hlast]

/-- Blanks at the end are trimmed with those in front of them. -/
theorem trimEnd_append_blank (s : Text) {t : Text} (h : ∀ c ∈ t, isBlank c = true) :
    trimEnd (s ++ t) = trimEnd s := by
  unfold trimEnd
  rw [List.reverse_append, List.dropWhile_append_of_pos]
  exact fun c hc => h c (List.mem_reverse.1 hc)

/-- A text without a blank at either end is trimmed already. -/
theorem trim_eq_self {s : Text} (hfirst : ∀ c ∈ s.head?, isBlank c = false)
    (hlast : ∀ c ∈ s.getLast?, isBlank c = false) : s.trim = s := by
  rw [trim, trimStart_eq_self hfirst, trimEnd_eq_self hlast]

/-- A text is what trimming leaves of it, between blanks. -/
theorem exists_eq_trim (s : Text) :
    ∃ a b, s = a ++ (s.trim ++ b) ∧ (∀ c ∈ a, isBlank c = true)
      ∧ ∀ c ∈ b, isBlank c = true := by
  refine ⟨s.takeWhile isBlank, s.trimStart.rtakeWhile isBlank, ?_, ?_, ?_⟩
  · show s = _ ++ (s.trimStart.rdropWhile isBlank ++ s.trimStart.rtakeWhile isBlank)
    rw [List.rdropWhile_append_rtakeWhile]
    exact List.takeWhile_append_dropWhile.symm
  · exact fun c hc => List.mem_takeWhile_imp hc
  · exact fun c hc => List.mem_rtakeWhile_imp hc

/-- What is trimmed begins without a blank. -/
theorem head?_trim (s : Text) : ∀ c ∈ s.trim.head?, isBlank c = false := by
  intro c hc
  have hstart := List.head?_dropWhile_not isBlank s
  -- trimming at the end leaves the first character, if it leaves any
  obtain ⟨later, heq⟩ : s.trim <+: s.trimStart := List.rdropWhile_prefix _ _
  have hhead : s.trimStart.head? = some c := by
    rw [← heq, List.head?_append, Option.mem_def.1 hc]
    rfl
  rw [show s.dropWhile isBlank = s.trimStart from rfl, hhead] at hstart
  exact hstart

/-- Trimming twice is trimming once. -/
theorem trim_trim (s : Text) : s.trim.trim = s.trim := by
  conv => lhs; rw [trim, trimStart_eq_self s.head?_trim]
  exact List.rdropWhile_idempotent isBlank s.trimStart

/-- Blanks in front are trimmed with those behind them. -/
theorem trim_blank_append {a : Text} (ha : ∀ c ∈ a, isBlank c = true) (s : Text) :
    trim (a ++ s) = s.trim := by
  unfold trim trimStart
  rw [List.dropWhile_append_of_pos ha]

/-- Blanks at the end are trimmed with those in front of them. -/
theorem trim_append_blank (s : Text) {b : Text} (hb : ∀ c ∈ b, isBlank c = true) :
    trim (s ++ b) = s.trim := by
  have hstart : trimStart b = [] := List.dropWhile_eq_nil_iff.2 hb
  unfold trim trimStart at *
  rw [List.dropWhile_append]
  split
  · next hempty =>
    -- nothing is left of the text in front either
    rw [hstart, List.isEmpty_iff.1 hempty]
  · exact trimEnd_append_blank _ hb

/-- Trimming leaves nothing of a text of blanks, and of no other text. -/
theorem trim_eq_nil_iff {s : Text} : s.trim = [] ↔ ∀ c ∈ s, isBlank c = true := by
  constructor
  · intro hnil
    obtain ⟨a, b, heq, ha, hb⟩ := s.exists_eq_trim
    rw [hnil, List.nil_append] at heq
    rw [heq]
    exact List.forall_mem_append.2 ⟨ha, hb⟩
  · intro h
    have hstart : s.trimStart = [] := List.dropWhile_eq_nil_iff.2 h
    rw [trim, hstart]
    rfl

end Aula.Text
