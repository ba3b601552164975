/-
The language of a pattern: the set of words it stands for, defined by
one rule per constructor and without a word on reading. `scan_sound`
ties the reader to it: what `scan` reads off a text is a word of the
pattern, and it stands in front of that text.
-/
import Aula.Pattern.Basic

namespace Aula.Pattern

/-- The words of a pattern. -/
inductive Word : Pattern → Text → Prop
  | text (word : Text) : Word (.text word) word
  | one {kind : CharClass} {c : Char} (h : kind.has c = true) : Word (.one kind) [c]
  | seq {p q : Pattern} {u v : Text} (hu : Word p u) (hv : Word q v) :
      Word (.seq p q) (u ++ v)
  | first {p q : Pattern} {w : Text} (h : Word p w) : Word (.alt p q) w
  | second {p q : Pattern} {w : Text} (h : Word q w) : Word (.alt p q) w
  | stop {p : Pattern} : Word (.many p) []
  | step {p : Pattern} {u v : Text} (hu : Word p u) (hv : Word (.many p) v) :
      Word (.many p) (u ++ v)
  | except {p : Pattern} {words : List Text} {w : Text} (h : Word p w)
      (hw : w ∉ words) : Word (.except p words) w

-- ================================================= runs of equal shapes

/-- The characters of an earlier piece are skipped first. -/
theorem run_skip (read : Text → Option Nat) {k : Nat} {s : Text}
    (h : k ≤ s.length) : run read k s = k + run read 0 (s.drop k) := by
  induction k generalizing s with
  | zero => simp
  | succ k ih =>
    cases s with
    | nil => simp at h
    | cons c s =>
      simp only [List.length_cons, Nat.add_le_add_iff_right] at h
      simp only [run, ih h, List.drop_succ_cons]
      omega

/-- A run of pieces, each a word of `p`, is a word of `many p` in front
of the text. -/
theorem run_sound {p : Pattern}
    (hp : ∀ s n, p.scan s = some n → n ≤ s.length ∧ Word p (s.take n))
    (s : Text) :
    run p.scan 0 s ≤ s.length ∧ Word (.many p) (s.take (run p.scan 0 s)) := by
  match s with
  | [] => exact ⟨Nat.le_refl 0, .stop⟩
  | c :: s =>
    cases hr : p.scan (c :: s) with
    | none => simp [run, hr, Word.stop]
    | some n =>
      cases n with
      | zero => simp [run, hr, Word.stop]
      | succ n =>
        obtain ⟨hle, hword⟩ := hp _ _ hr
        simp only [List.length_cons, Nat.add_le_add_iff_right] at hle
        obtain ⟨ihle, ihword⟩ := run_sound hp (s.drop n)
        simp only [run, hr, run_skip _ hle]
        refine ⟨by simp only [List.length_cons, List.length_drop] at *; omega, ?_⟩
        have hsplit : (c :: s).take (n + run p.scan 0 (s.drop n) + 1)
            = (c :: s).take (n + 1) ++ (s.drop n).take (run p.scan 0 (s.drop n)) := by
          simp [List.take_add]
        rw [hsplit]
        exact .step hword ihword
termination_by s.length
decreasing_by simp only [List.length_drop, List.length_cons]; omega

-- =================================================== what the reader reads

/-- What is read is a word of the pattern, in front of the text. -/
theorem scan_sound {p : Pattern} {s : Text} {n : Nat} (h : p.scan s = some n) :
    n ≤ s.length ∧ Word p (s.take n) := by
  induction p generalizing s n with
  | text word =>
    simp only [scan] at h
    split at h
    · next hpre =>
      obtain ⟨t, rfl⟩ := List.isPrefixOf_iff_prefix.1 hpre
      cases h
      exact ⟨by simp, by simpa using Word.text word⟩
    · cases h
  | one kind =>
    cases s with
    | nil => cases h
    | cons c s =>
      simp only [scan] at h
      split at h
      · next hc => cases h; exact ⟨by simp, by simpa using Word.one hc⟩
      · cases h
  | seq p q ihp ihq =>
    simp only [scan] at h
    split at h
    · cases h
    · next m hm =>
      obtain ⟨k, hk, rfl⟩ := Option.map_eq_some_iff.1 h
      obtain ⟨hmle, hmw⟩ := ihp hm
      obtain ⟨hkle, hkw⟩ := ihq hk
      refine ⟨by simp only [List.length_drop] at hkle; omega, ?_⟩
      rw [List.take_add]
      exact .seq hmw hkw
  | alt p q ihp ihq =>
    simp only [scan] at h
    split at h
    · obtain ⟨hle, hw⟩ := ihq h
      exact ⟨hle, .second hw⟩
    · next m hm =>
      cases h
      obtain ⟨hle, hw⟩ := ihp hm
      exact ⟨hle, .first hw⟩
  | many p ih =>
    simp only [scan, Option.some.injEq] at h
    subst h
    exact run_sound (fun _ _ => ih) s
  | except p words ih =>
    simp only [scan, Option.filter_eq_some_iff, decide_eq_true_eq] at h
    obtain ⟨hle, hw⟩ := ih h.1
    exact ⟨hle, .except hw h.2⟩

end Aula.Pattern
