/-
One character decides: which patterns the reader reads to the letter.

`scan` never goes back, so it can miss a word that the language of the
pattern has. This file says when it cannot. A pattern is deterministic
before a set of classes (`isDeterministic`) if at each of its choices
the next character tells which way to go, where what stands behind the
pattern begins with a character of those classes or is the end of the
text:

- of two alternatives, the first one takes some character and cannot
  begin as the second one, or what stands behind it, begins;
- a repeated shape takes some character and cannot begin as what stands
  behind the repetition begins.

The condition is computed from the classes that a word may begin with
(`first`) and from whether it may be empty (`nullable`).

# What it gives

`scan_append`: a deterministic pattern reads each of its words whole,
and no more, before any text that goes on as promised. With
`scan_sound` this makes `scan` decide the language, and two words of
the pattern in front of one text are the same word
(`Word.append_inj`).
-/
import Aula.Pattern.Language

namespace Aula

namespace CharClass

-- ======================================================= apart classes

/-- The class of all characters. -/
def all : CharClass := { ranges := [], inside := false }

/-- Every character belongs to it. -/
theorem has_all (c : Char) : all.has c = true := rfl

/-- The characters outside a class. -/
def compl (k : CharClass) : CharClass := { k with inside := !k.inside }

theorem has_compl (k : CharClass) (c : Char) : k.compl.has c = !k.has c := by
  unfold has compl
  cases k.inside <;> simp

/-- Whether the ranges show that two classes have no common member. Two
complements always count as overlapping. -/
def isApart (k l : CharClass) : Bool :=
  match k.inside, l.inside with
  | true, true =>
    k.ranges.all fun r => l.ranges.all fun q => r.2 < q.1 || q.2 < r.1
  | true, false =>
    k.ranges.all fun r => l.ranges.any fun q => q.1 ≤ r.1 && r.2 ≤ q.2
  | false, true =>
    l.ranges.all fun r => k.ranges.any fun q => q.1 ≤ r.1 && r.2 ≤ q.2
  | false, false => false

/-- Membership in a class of ranges. -/
private theorem has_inside {k : CharClass} (hk : k.inside = true) {c : Char} :
    k.has c = true ↔ ∃ r ∈ k.ranges, r.1 ≤ c.toNat ∧ c.toNat ≤ r.2 := by
  simp [has, hk, List.any_eq_true]

/-- Membership in a class that excludes ranges. -/
private theorem has_outside {k : CharClass} (hk : k.inside = false) {c : Char} :
    k.has c = true ↔ ∀ r ∈ k.ranges, ¬ (r.1 ≤ c.toNat ∧ c.toNat ≤ r.2) := by
  simp [has, hk, List.any_eq_false]

/-- A range inside one excluded range has no member of the class. -/
private theorem not_has_of_covered {k l : CharClass} (hk : k.inside = true)
    (hl : l.inside = false)
    (h : ∀ r ∈ k.ranges, ∃ q ∈ l.ranges, q.1 ≤ r.1 ∧ r.2 ≤ q.2) {c : Char}
    (hc : k.has c = true) : ¬ l.has c = true := by
  intro hlc
  obtain ⟨r, hr, hle, hge⟩ := (has_inside hk).1 hc
  obtain ⟨q, hq, hqle, hqge⟩ := h r hr
  exact (has_outside hl).1 hlc q hq ⟨by omega, by omega⟩

/-- Classes seen to be apart have no common member. -/
theorem not_has_of_isApart {k l : CharClass} (h : k.isApart l = true) {c : Char}
    (hk : k.has c = true) : ¬ l.has c = true := by
  unfold isApart at h
  split at h
  · next hki hli =>
    intro hl
    obtain ⟨r, hr, hle, hge⟩ := (has_inside hki).1 hk
    obtain ⟨q, hq, hqle, hqge⟩ := (has_inside hli).1 hl
    have := List.all_eq_true.1 (List.all_eq_true.1 h r hr) q hq
    simp only [Bool.or_eq_true, decide_eq_true_eq] at this
    omega
  · next hki hli =>
    simp only [List.all_eq_true, List.any_eq_true, Bool.and_eq_true,
      decide_eq_true_eq] at h
    exact not_has_of_covered hki hli h hk
  · next hki hli =>
    simp only [List.all_eq_true, List.any_eq_true, Bool.and_eq_true,
      decide_eq_true_eq] at h
    exact fun hl => not_has_of_covered hli hki h hl hk
  · cases h

/-- Whether two sets of classes have no common member: each class of the
one is apart from each of the other. -/
def areApart (ks ls : List CharClass) : Bool := ks.all fun k => ls.all k.isApart

/-- Sets of classes that are apart have no common member. -/
theorem not_has_of_areApart {ks ls : List CharClass} (h : areApart ks ls = true)
    {c : Char} (hk : ∃ k ∈ ks, k.has c = true) : ¬ ∃ l ∈ ls, l.has c = true := by
  intro h
  obtain ⟨l, hl, hlc⟩ := h
  obtain ⟨k, hk, hkc⟩ := hk
  exact not_has_of_isApart (List.all_eq_true.1 (List.all_eq_true.1 h k hk) l hl) hkc hlc

end CharClass

namespace Text

/-- The text ends here or goes on with a character of one of the
classes. -/
def Continues (ks : List CharClass) (s : Text) : Prop :=
  ∀ c ∈ s.head?, ∃ k ∈ ks, k.has c = true

theorem continues_nil (ks : List CharClass) : Continues ks [] := by
  intro c hc
  cases hc

theorem continues_cons {ks : List CharClass} {c : Char} {s : Text} :
    Continues ks (c :: s) ↔ ∃ k ∈ ks, k.has c = true := by
  simp [Continues]

/-- Every text ends or goes on with some character. -/
theorem continues_all (s : Text) : Continues [.all] s :=
  fun c _ => ⟨.all, List.mem_singleton_self _, CharClass.has_all c⟩

theorem Continues.mono {ks ls : List CharClass} {s : Text} (h : Continues ks s)
    (hsub : ks ⊆ ls) : Continues ls s := by
  intro c hc
  obtain ⟨k, hk, hkc⟩ := h c hc
  exact ⟨k, hsub hk, hkc⟩

end Text

namespace Pattern

open CharClass (areApart)
open Text (Continues continues_nil continues_cons)

-- ==================================================== how a word begins

/-- Whether the pattern may have an empty word. -/
def nullable : Pattern → Bool
  | text word => word.isEmpty
  | one _ => false
  | seq p q => p.nullable && q.nullable
  | alt p q => p.nullable || q.nullable
  | many _ => true
  | except p _ => p.nullable

/-- The classes of the characters that a word of the pattern may begin
with. -/
def first : Pattern → List CharClass
  | text [] => []
  | text (c :: _) => [.anyOf [c]]
  | one kind => [kind]
  | seq p q => p.first ++ if p.nullable then q.first else []
  | alt p q => p.first ++ q.first
  | many p => p.first
  | except p _ => p.first

/-- The classes of the characters that a text may begin with if a word
of the pattern stands in front and what is behind it begins with a
character of `follow`. -/
def before (p : Pattern) (follow : List CharClass) : List CharClass :=
  p.first ++ if p.nullable then follow else []

/-- Only a pattern that may have it has the empty word. -/
theorem Word.nullable {p : Pattern} (h : Word p []) : p.nullable = true := by
  generalize hw : ([] : Text) = w at h
  induction h with
  | text word => subst hw; rfl
  | one h => cases hw
  | seq hu hv ihu ihv =>
    obtain ⟨rfl, rfl⟩ := List.append_eq_nil_iff.1 hw.symm
    simp [Pattern.nullable, ihu rfl, ihv rfl]
  | first h ih => simp [Pattern.nullable, ih hw]
  | second h ih => simp [Pattern.nullable, ih hw]
  | stop => rfl
  | step hu hv => rfl
  | except h hw' ih => exact ih hw

/-- A word begins with a character of one of the first classes. -/
theorem Word.first_has {p : Pattern} {c : Char} {w : Text} (h : Word p (c :: w)) :
    ∃ k ∈ p.first, k.has c = true := by
  generalize hw : c :: w = u at h
  induction h generalizing w with
  | text word =>
    subst hw
    exact ⟨_, List.mem_singleton_self _, CharClass.has_anyOf.2 (List.mem_singleton_self c)⟩
  | one h =>
    cases hw
    exact ⟨_, List.mem_singleton_self _, h⟩
  | @seq p q u v hu hv ihu ihv =>
    cases u with
    | nil =>
      obtain ⟨k, hk, hkc⟩ := ihv hw
      refine ⟨k, ?_, hkc⟩
      rw [Pattern.first, hu.nullable]
      exact List.mem_append_right _ hk
    | cons d u =>
      obtain ⟨rfl, -⟩ := List.cons.inj hw
      obtain ⟨k, hk, hkc⟩ := ihu rfl
      exact ⟨k, List.mem_append_left _ hk, hkc⟩
  | first h ih =>
    obtain ⟨k, hk, hkc⟩ := ih hw
    exact ⟨k, List.mem_append_left _ hk, hkc⟩
  | second h ih =>
    obtain ⟨k, hk, hkc⟩ := ih hw
    exact ⟨k, List.mem_append_right _ hk, hkc⟩
  | stop => cases hw
  | @step p u v hu hv ihu ihv =>
    cases u with
    | nil => exact ihv hw
    | cons d u =>
      obtain ⟨rfl, -⟩ := List.cons.inj hw
      exact ihu rfl
  | except h hw' ih => exact ih hw

/-- A word goes on as the pattern begins. -/
theorem Word.continues {p : Pattern} {w : Text} (h : Word p w) : Continues p.first w := by
  cases w with
  | nil => exact continues_nil p.first
  | cons c w => exact continues_cons.2 h.first_has

/-- How a text begins that has a word of the pattern in front. -/
theorem Word.continues_append {p : Pattern} {w s : Text} {follow : List CharClass}
    (hw : Word p w) (hs : Continues follow s) :
    Continues (p.before follow) (w ++ s) := by
  cases w with
  | nil =>
    refine hs.mono fun k hk => ?_
    rw [before, hw.nullable]
    exact List.mem_append_right _ hk
  | cons c w =>
    obtain ⟨k, hk, hkc⟩ := hw.first_has
    exact continues_cons.2 ⟨k, List.mem_append_left _ hk, hkc⟩

/-- No word is one of another pattern that begins in another way. -/
theorem Word.not_word {p q : Pattern} {w : Text} (h : Word p w) (hnull : p.nullable = false)
    (hapart : areApart p.first q.first = true) : ¬ Word q w := by
  intro hq
  cases w with
  | nil =>
    rw [h.nullable] at hnull
    cases hnull
  | cons c w => exact CharClass.not_has_of_areApart hapart h.first_has hq.first_has

-- ============================================== one character decides

/-- Whether one character in front decides every choice of the pattern,
if what is behind it begins with a character of `follow` or is the end
of the text. -/
def isDeterministic : Pattern → (follow : List CharClass) → Bool
  | text _, _ => true
  | one _, _ => true
  | seq p q, follow => p.isDeterministic (q.before follow) && q.isDeterministic follow
  | alt p q, follow =>
    !p.nullable && areApart p.first (q.before follow)
      && p.isDeterministic follow && q.isDeterministic follow
  | many p, follow =>
    !p.nullable && areApart p.first follow
      && p.isDeterministic ((many p).before follow)
  | except p _, follow => p.isDeterministic follow

/-- A pattern without empty word reads nothing off a text that begins in
another way. -/
theorem scan_eq_none {p : Pattern} {ks : List CharClass} {s : Text}
    (hnull : p.nullable = false) (hapart : areApart p.first ks = true)
    (hs : Continues ks s) : p.scan s = none := by
  cases hscan : p.scan s with
  | none => rfl
  | some n =>
    obtain ⟨-, hword⟩ := scan_sound hscan
    exfalso
    cases htake : s.take n with
    | nil =>
      rw [htake] at hword
      rw [hword.nullable] at hnull
      cases hnull
    | cons c w =>
      rw [htake] at hword
      have hhead : c ∈ s.head? := by
        cases s with
        | nil => simp at htake
        | cons d s =>
          cases n with
          | zero => simp at htake
          | succ n => simp_all
      exact CharClass.not_has_of_areApart hapart hword.first_has (hs c hhead)

/-- Only the end of the text or another beginning ends a run: the run
takes all the pieces of a word of `many p`. -/
theorem run_append {p : Pattern} {follow : List CharClass}
    (hnull : p.nullable = false) (hapart : areApart p.first follow = true)
    (hp : ∀ u s, Word p u → Continues ((many p).before follow) s →
      p.scan (u ++ s) = some u.length)
    {w s : Text} (hw : Word (many p) w) (hs : Continues follow s) :
    run p.scan 0 (w ++ s) = w.length := by
  generalize hm : many p = m at hw
  induction hw with
  | text | one | seq | first | second | except => cases hm
  | stop =>
    cases hm
    cases s with
    | nil => rfl
    | cons c s =>
      have hnone : p.scan (c :: s) = none := scan_eq_none hnull hapart hs
      simp [run, hnone]
  | @step p' u v hu hv _ ihv =>
    cases hm
    cases u with
    | nil =>
      -- an empty piece adds nothing, to the word or to the run
      exact ihv rfl
    | cons c u =>
      have hread : p.scan (c :: (u ++ (v ++ s))) = some (u.length + 1) :=
        hp (c :: u) (v ++ s) hu (hv.continues_append hs)
      rw [List.append_assoc, List.cons_append, run, hread]
      simp only
      rw [run_skip _ (by simp), List.drop_left, ihv rfl, List.length_append,
        List.length_cons]
      omega

/-- A deterministic pattern reads each of its words whole, and no
more. -/
theorem scan_append {p : Pattern} {follow : List CharClass} {w s : Text}
    (hdet : p.isDeterministic follow = true) (hw : Word p w)
    (hs : Continues follow s) : p.scan (w ++ s) = some w.length := by
  induction p generalizing follow w s with
  | text word =>
    cases hw
    rw [scan, if_pos (List.isPrefixOf_iff_prefix.2 (List.prefix_append word s))]
  | one kind =>
    cases hw with
    | one h => simp [scan, h]
  | seq p q ihp ihq =>
    rw [isDeterministic, Bool.and_eq_true] at hdet
    cases hw with
    | @seq _ _ u v hu hv =>
      rw [List.append_assoc, scan, ihp hdet.1 hu (hv.continues_append hs)]
      simp only [List.drop_left]
      rw [ihq hdet.2 hv hs, Option.map_some, List.length_append]
  | alt p q ihp ihq =>
    simp only [isDeterministic, Bool.and_eq_true, Bool.not_eq_true'] at hdet
    obtain ⟨⟨⟨hnull, hapart⟩, hdp⟩, hdq⟩ := hdet
    cases hw with
    | first h => rw [scan, ihp hdp h hs]
    | second h =>
      have hnone : p.scan (w ++ s) = none :=
        scan_eq_none hnull hapart (h.continues_append hs)
      rw [scan, hnone]
      exact ihq hdq h hs
  | many p ih =>
    simp only [isDeterministic, Bool.and_eq_true, Bool.not_eq_true'] at hdet
    obtain ⟨⟨hnull, hapart⟩, hdp⟩ := hdet
    rw [scan, run_append hnull hapart (fun u s => ih hdp) hw hs]
  | except p words ih =>
    cases hw with
    | except h hout =>
      rw [scan, ih hdet h hs]
      simp [hout]

/-- A word is read whole where nothing is behind it. -/
theorem scan_eq_length {p : Pattern} (hdet : p.isDeterministic [] = true) {w : Text}
    (hw : Word p w) : p.scan w = some w.length := by
  have hscan := scan_append hdet hw (continues_nil [])
  rwa [List.append_nil] at hscan

/-- Where the first shape reads a word whole, the second reads on. -/
theorem scan_seq_append {p q : Pattern} {u s : Text} (h : p.scan (u ++ s) = some u.length) :
    (p ++ q).scan (u ++ s) = (q.scan s).map (u.length + ·) := by
  show scan (.seq p q) (u ++ s) = _
  rw [scan, h]
  simp only [List.drop_left]

/-- Words of a deterministic pattern in front of one text are the same
word. -/
theorem Word.append_inj {p : Pattern} {follow : List CharClass} {u v s t : Text}
    (hdet : p.isDeterministic follow = true) (hu : Word p u) (hv : Word p v)
    (hs : Continues follow s) (ht : Continues follow t) (heq : u ++ s = v ++ t) :
    u = v ∧ s = t := by
  have hlen : u.length = v.length := by
    have hscan := scan_append hdet hu hs
    rw [heq, scan_append hdet hv ht] at hscan
    exact (Option.some.inj hscan).symm
  exact List.append_inj heq hlen

end Pattern

end Aula
