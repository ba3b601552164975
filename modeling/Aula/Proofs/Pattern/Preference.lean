/-
Leftmost-first reading: all the ways to read a pattern off the front of
a text, in the order of preference.

`scan` goes one way and never goes back. A regular expression is read
otherwise: of two alternatives the first is tried first, one more piece
of a repetition before none, and what is behind a piece may send the
reader back to its next way. What is read in the end is the first way
that lets everything fit. `readings` lists the ways in that order, and
`cuts` does so for shapes one after the other whose words are wanted
apart, as those of a group are.

# What it gives

The order says which word is read; which words may be read it leaves to
the language. `mem_cuts_iff` says so: the cuts of a text are its
beginnings taken apart into words. So where the language allows one
beginning only, preference has nothing to choose from. Where it allows
several, as for a run of blanks, `head?_readings_many` finds the
preferred one: what `scan` reads without going back.
-/
import Aula.Proofs.Pattern.Pieces
import Mathlib.Data.List.Forall2

namespace Aula.Pattern

-- ============================================== in order of preference

/-- The lengths of the runs of pieces in front of a text, where `read`
lists the lengths of a piece. One more piece is preferred to none; an
empty piece ends the run. `skip` characters belong to a piece read
earlier. -/
def runs (read : Text → List Nat) : (skip : Nat) → Text → List Nat
  | _, [] => [0]
  | skip + 1, _ :: s => (runs read skip s).map (· + 1)
  | 0, c :: s =>
    ((read (c :: s)).flatMap fun
      | 0 => [0]
      | n + 1 => (runs read n s).map (· + 1)) ++ [0]

/-- The numbers of characters in front of a text that have the shape,
the preferred one first. -/
def readings : Pattern → Text → List Nat
  | .text word, s => if word.isPrefixOf s then [word.length] else []
  | .one _, [] => []
  | .one kind, c :: _ => if kind.has c then [1] else []
  | .seq p q, s => (p.readings s).flatMap fun n => (q.readings (s.drop n)).map (n + ·)
  | .alt p q, s => p.readings s ++ q.readings s
  | .many p, s => runs p.readings 0 s
  | .except p words, s => (p.readings s).filter fun n => !words.contains (s.take n)

/-- The words that the given shapes read one after the other in front of
a text, the preferred ones first. -/
def cuts : List Pattern → Text → List (List Text)
  | [], _ => [[]]
  | p :: ps, s => (p.readings s).flatMap fun n => (cuts ps (s.drop n)).map (s.take n :: ·)

-- ================================================ runs of equal shapes

/-- The characters of an earlier piece are skipped first. -/
theorem runs_skip (read : Text → List Nat) {k : Nat} {s : Text} (h : k ≤ s.length) :
    runs read k s = (runs read 0 (s.drop k)).map (k + ·) := by
  induction k generalizing s with
  | zero => simp
  | succ k ih =>
    cases s with
    | nil => simp at h
    | cons c s =>
      simp only [List.length_cons, Nat.add_le_add_iff_right] at h
      simp only [runs, ih h, List.drop_succ_cons, List.map_map]
      refine List.map_congr_left fun n _ => ?_
      simp only [Function.comp_apply]
      omega

/-- A run is a piece that is not empty and a run behind it, or nothing. -/
theorem mem_runs_cons {read : Text → List Nat} {c : Char} {s : Text} {n : Nat}
    (hread : ∀ m ∈ read (c :: s), m ≤ s.length + 1) :
    n ∈ runs read 0 (c :: s)
      ↔ n = 0 ∨ ∃ m k, m + 1 ∈ read (c :: s) ∧ k ∈ runs read 0 (s.drop m) ∧ n = m + 1 + k := by
  rw [runs, List.mem_append, List.mem_singleton, List.mem_flatMap]
  constructor
  · rintro (⟨m, hm, hn⟩ | h)
    · cases m with
      | zero => exact .inl (List.mem_singleton.1 hn)
      | succ m =>
        simp only [runs_skip read (Nat.le_of_succ_le_succ (hread _ hm)), List.mem_map] at hn
        obtain ⟨_, ⟨k, hk, rfl⟩, rfl⟩ := hn
        exact .inr ⟨m, k, hm, hk, by omega⟩
    · exact .inl h
  · rintro (h | ⟨m, k, hm, hk, rfl⟩)
    · exact .inr h
    · refine .inl ⟨m + 1, hm, ?_⟩
      simp only [runs_skip read (Nat.le_of_succ_le_succ (hread _ hm)), List.mem_map]
      exact ⟨m + k, ⟨k, hk, rfl⟩, by omega⟩

section Runs

variable {p : Pattern}
  (hp : ∀ {s n}, n ∈ p.readings s ↔ n ≤ s.length ∧ Word p (s.take n))
include hp

/-- A run of pieces in front of the text is a word of `many p`. -/
theorem runs_sound {s : Text} {n : Nat} (h : n ∈ runs p.readings 0 s) :
    n ≤ s.length ∧ Word (.many p) (s.take n) := by
  match s with
  | [] =>
    rw [runs, List.mem_singleton] at h
    subst h
    exact ⟨Nat.le_refl 0, .stop⟩
  | c :: s =>
    rcases (mem_runs_cons fun m hm => (hp.1 hm).1).1 h with rfl | ⟨m, k, hm, hk, rfl⟩
    · exact ⟨Nat.zero_le _, .stop⟩
    · obtain ⟨hmle, hmw⟩ := hp.1 hm
      obtain ⟨hkle, hkw⟩ := runs_sound hk
      simp only [List.length_cons, List.length_drop] at hmle hkle ⊢
      refine ⟨by omega, ?_⟩
      rw [List.take_add, List.drop_succ_cons]
      exact .step hmw hkw
termination_by s.length
decreasing_by simp only [List.length_drop, List.length_cons]; omega

/-- Every word of `many p` is a run of pieces in front of any text. -/
theorem length_mem_runs {w : Text} (hw : Word (.many p) w) (s : Text) :
    w.length ∈ runs p.readings 0 (w ++ s) := by
  generalize hm : many p = m at hw
  induction hw with
  | text | one | seq | first | second | except => cases hm
  | stop =>
    cases s with
    | nil => exact List.mem_singleton_self 0
    | cons c s => exact (mem_runs_cons fun m hm => (hp.1 hm).1).2 (.inl rfl)
  | @step _ u v hu _ _ ihv =>
    cases hm
    cases u with
    | nil => exact ihv rfl
    | cons c u =>
      have hpiece : u.length + 1 ∈ p.readings (c :: (u ++ (v ++ s))) :=
        hp.2 ⟨by simp, by simpa using hu⟩
      rw [List.append_assoc, List.cons_append]
      refine (mem_runs_cons fun m hm => (hp.1 hm).1).2
        (.inr ⟨u.length, v.length, hpiece, ?_, by simp; omega⟩)
      rw [List.drop_left]
      exact ihv rfl

end Runs

-- ========================================= what preference leaves open

/-- The readings are the words in front of the text. -/
theorem mem_readings_iff {p : Pattern} {s : Text} {n : Nat} :
    n ∈ p.readings s ↔ n ≤ s.length ∧ Word p (s.take n) := by
  induction p generalizing s n with
  | text word =>
    rw [readings, word_text_iff]
    constructor
    · intro h
      split at h
      · next hpre =>
        rw [List.mem_singleton.1 h]
        rw [List.isPrefixOf_iff_prefix] at hpre
        exact ⟨hpre.length_le, (List.prefix_iff_eq_take.1 hpre).symm⟩
      · cases h
    · rintro ⟨hle, rfl⟩
      rw [if_pos (List.isPrefixOf_iff_prefix.2 (List.take_prefix n s)),
        List.length_take_of_le hle]
      exact List.mem_singleton_self n
  | one kind =>
    cases s with
    | nil =>
      refine ⟨fun h => absurd h List.not_mem_nil, fun h => ?_⟩
      rw [List.take_nil] at h
      cases h.2
    | cons c s =>
      rw [readings]
      constructor
      · intro h
        split at h
        · next hc =>
          rw [List.mem_singleton.1 h]
          exact ⟨Nat.succ_pos s.length, .one hc⟩
        · cases h
      · rintro ⟨hle, hw⟩
        generalize hu : (c :: s).take n = u at hw
        cases hw with
        | one hc =>
          have hn : n = 1 := by simpa [hu] using (List.length_take_of_le hle).symm
          subst hn
          cases hu
          rw [if_pos hc]
          exact List.mem_singleton_self 1
  | seq p q ihp ihq =>
    simp only [readings, List.mem_flatMap, List.mem_map, ihp, ihq]
    constructor
    · rintro ⟨m, ⟨hm, hu⟩, k, ⟨hk, hv⟩, rfl⟩
      rw [List.length_drop] at hk
      refine ⟨by omega, ?_⟩
      rw [List.take_add]
      exact .seq hu hv
    · rintro ⟨hle, hw⟩
      obtain ⟨u, v, heq, hu, hv⟩ := word_append_iff.1 hw
      have hlength : n = u.length + v.length := by
        rw [← List.length_append, ← heq, List.length_take_of_le hle]
      have hs : s = u ++ (v ++ s.drop n) := by
        rw [← List.append_assoc, ← heq, List.take_append_drop]
      refine ⟨u.length, ⟨by omega, ?_⟩, v.length, ⟨?_, ?_⟩, hlength.symm⟩
      · rw [hs, List.take_left]
        exact hu
      · rw [List.length_drop]
        omega
      · rw [hs, List.drop_left, List.take_left]
        exact hv
  | alt p q ihp ihq =>
    rw [readings, List.mem_append, ihp, ihq, ← and_or_left, ← word_or_iff]
    rfl
  | many p ih =>
    refine ⟨runs_sound ih, fun h => ?_⟩
    have hrun := length_mem_runs ih h.2 (s.drop n)
    rwa [List.take_append_drop, List.length_take_of_le h.1] at hrun
  | except p words ih =>
    rw [readings, List.mem_filter, ih, Bool.not_eq_true', List.contains_eq_mem,
      decide_eq_false_iff_not, and_assoc]
    refine and_congr_right fun _ => ⟨fun h => .except h.1 h.2, fun h => ?_⟩
    cases h with
    | except hw hout => exact ⟨hw, hout⟩

/-- The cuts of a text are its beginnings, taken apart into words. -/
theorem mem_cuts_iff {ps : List Pattern} {s : Text} {ws : List Text} :
    ws ∈ cuts ps s ↔ List.Forall₂ Word ps ws ∧ ws.flatten <+: s := by
  induction ps generalizing s ws with
  | nil =>
    rw [cuts, List.mem_singleton, List.forall₂_nil_left_iff]
    exact ⟨fun h => ⟨h, h ▸ List.nil_prefix⟩, And.left⟩
  | cons p ps ih =>
    simp only [cuts, List.mem_flatMap, List.mem_map, mem_readings_iff, ih]
    constructor
    · rintro ⟨n, ⟨-, hw⟩, ws, ⟨hws, t, ht⟩, rfl⟩
      refine ⟨.cons hw hws, t, ?_⟩
      rw [List.flatten_cons, List.append_assoc, ht, List.take_append_drop]
    · rintro ⟨hws, t, rfl⟩
      cases hws with
      | @cons _ w _ ws hw hws =>
        refine ⟨w.length, ⟨by simp, ?_⟩, ws, ⟨hws, t, ?_⟩, ?_⟩ <;>
          simp [hw]

-- =================================================== what is preferred

section Preferred

variable {p q : Pattern} (hp : ∀ s, (p.readings s).head? = p.scan s)
include hp

/-- The preferred run is the one of preferred pieces. -/
theorem head?_runs (k : Nat) (s : Text) :
    (runs p.readings k s).head? = some (run p.scan k s) := by
  induction s generalizing k with
  | nil => cases k <;> rfl
  | cons c s ih =>
    cases k with
    | succ k => rw [runs, run, List.head?_map, ih, Option.map_some]
    | zero =>
      rw [runs, run, ← hp (c :: s)]
      cases hread : p.readings (c :: s) with
      | nil => rfl
      | cons n ns =>
        cases n with
        | zero => rfl
        | succ n =>
          rw [List.flatMap_cons, List.append_assoc, List.head?_append, List.head?_map, ih]
          rfl

/-- Of a repetition, the preferred reading is the one that never goes
back. -/
theorem head?_readings_many (s : Text) : ((many p).readings s).head? = (many p).scan s :=
  head?_runs hp 0 s

example : (many (one .digit)).readings "12;" = [2, 1, 0] := by decide

/-- Where the second shape always fits, the first need not go back. -/
theorem head?_readings_append (hq : ∀ s, (q.readings s).head? = q.scan s)
    (hfits : ∀ s, q.scan s ≠ none) (s : Text) :
    ((p ++ q).readings s).head? = (p ++ q).scan s := by
  show (readings (.seq p q) s).head? = scan (.seq p q) s
  rw [readings, scan, ← hp s]
  cases hread : p.readings s with
  | nil => rfl
  | cons n ns =>
    obtain ⟨m, hm⟩ := Option.ne_none_iff_exists'.1 (hfits (s.drop n))
    rw [List.flatMap_cons, List.head?_append, List.head?_map, hq, hm]
    simp [hm]

end Preferred

/-- One character is read in one way. -/
theorem head?_readings_one (k : CharClass) (s : Text) :
    ((one k).readings s).head? = (one k).scan s := by
  cases s with
  | nil => rfl
  | cons c s =>
    rw [readings, scan]
    split <;> rfl

end Aula.Pattern
