/-
Openings: what the first characters of a word must be.

`first` looks at one character, which is too little to tell two
keywords apart that begin alike. The opening of a pattern lists, for
one position after the other, the classes of the characters that may
stand there, as far as the positions can be told; what is behind the
pattern carries on where a word may end.

Two patterns whose openings are apart at some position never have words
in front of the same text (`not_opens_of_areOpeningsApart`).
-/
import Aula.Proofs.Pattern.Determinism

namespace Aula

open CharClass (areApart)

/-- The text begins with one character of each set of classes, in the
given order. -/
def Text.Opens : List (List CharClass) → Text → Prop
  | [], _ => True
  | _ :: _, [] => False
  | ks :: rest, c :: s => (∃ k ∈ ks, k.has c = true) ∧ Opens rest s

/-- Whether two openings exclude each other: at some position the one
allows no character that the other allows. -/
def areOpeningsApart (ks ls : List (List CharClass)) : Bool :=
  (ks.zip ls).any fun (k, l) => areApart k l

/-- No text opens in two ways that are apart. -/
theorem not_opens_of_areOpeningsApart {ks ls : List (List CharClass)} {s : Text}
    (h : areOpeningsApart ks ls = true) (hk : s.Opens ks) : ¬ s.Opens ls := by
  intro hl
  induction ks generalizing ls s with
  | nil => simp [areOpeningsApart] at h
  | cons k ks ih =>
    cases ls with
    | nil => simp [areOpeningsApart] at h
    | cons l ls =>
      cases s with
      | nil => exact hk
      | cons c s =>
        simp only [areOpeningsApart, List.zip_cons_cons, List.any_cons,
          Bool.or_eq_true] at h
        rcases h with h | h
        · exact CharClass.not_has_of_areApart h hk.1 hl.1
        · exact ih h hk.2 hl.2

/-- An opening that allows more, for no more positions, is met as well. -/
theorem Text.Opens.zipWith_left {ks : List (List CharClass)} {s : Text}
    (h : s.Opens ks) (ls : List (List CharClass)) :
    s.Opens (List.zipWith (· ++ ·) ks ls) := by
  induction ks generalizing ls s with
  | nil => exact trivial
  | cons k ks ih =>
    cases ls with
    | nil => exact trivial
    | cons l ls =>
      cases s with
      | nil => exact h
      | cons c s =>
        obtain ⟨⟨m, hm, hmc⟩, hrest⟩ := h
        exact ⟨⟨m, List.mem_append_left _ hm, hmc⟩, ih hrest ls⟩

/-- The other side of the union allows more as well. -/
theorem Text.Opens.zipWith_right {ls : List (List CharClass)} {s : Text}
    (h : s.Opens ls) (ks : List (List CharClass)) :
    s.Opens (List.zipWith (· ++ ·) ks ls) := by
  induction ls generalizing ks s with
  | nil => rw [List.zipWith_nil_right]; exact trivial
  | cons l ls ih =>
    cases ks with
    | nil => exact trivial
    | cons k ks =>
      cases s with
      | nil => exact h
      | cons c s =>
        obtain ⟨⟨m, hm, hmc⟩, hrest⟩ := h
        exact ⟨⟨m, List.mem_append_right _ hm, hmc⟩, ih hrest ks⟩

/-- The opening of a text that is spelled out. -/
def Text.spelling (word : Text) : List (List CharClass) := word.map fun c => [.anyOf [c]]

/-- A spelled text is in front, and what is behind it opens as the rest
says. -/
theorem Text.opens_spelling {word : Text} {behind : List (List CharClass)} {s : Text} :
    s.Opens (word.spelling ++ behind) ↔ ∃ t, s = word ++ t ∧ t.Opens behind := by
  induction word generalizing s with
  | nil => simp [spelling]
  | cons c word ih =>
    cases s with
    | nil => simp [spelling, Opens]
    | cons d s =>
      have hstep : Text.Opens (spelling (c :: word) ++ behind) (d :: s)
          ↔ d = c ∧ Text.Opens (spelling word ++ behind) s := by
        simp [spelling, Opens, CharClass.has_anyOf]
      rw [hstep, ih]
      constructor
      · intro h
        obtain ⟨rfl, t, rfl, ht⟩ := h
        exact ⟨t, rfl, ht⟩
      · intro h
        obtain ⟨t, heq, ht⟩ := h
        obtain ⟨hd, hs⟩ := List.cons.inj heq
        exact ⟨hd, t, hs, ht⟩

namespace Pattern

/-- How a text opens that has a word of the pattern in front, if the
text behind the word opens as `behind` says. -/
def opening : Pattern → (behind : List (List CharClass)) → List (List CharClass)
  | text word, behind => word.spelling ++ behind
  | one kind, behind => [kind] :: behind
  | seq p q, behind => p.opening (q.opening behind)
  | alt p q, behind => List.zipWith (· ++ ·) (p.opening behind) (q.opening behind)
  | many p, behind => List.zipWith (· ++ ·) (p.opening []) behind
  | except p _, behind => p.opening behind

/-- A text with a word in front opens as the pattern says. -/
theorem Word.opens_append {p : Pattern} {w s : Text} {behind : List (List CharClass)}
    (hw : Word p w) (hs : s.Opens behind) : Text.Opens (p.opening behind) (w ++ s) := by
  induction hw generalizing behind s with
  | text word => exact Text.opens_spelling.2 ⟨s, rfl, hs⟩
  | one h => exact ⟨⟨_, List.mem_singleton_self _, h⟩, hs⟩
  | seq hu hv ihu ihv =>
    rw [List.append_assoc]
    exact ihu (ihv hs)
  | first h ih => exact (ih hs).zipWith_left _
  | second h ih => exact (ih hs).zipWith_right _
  | stop => exact hs.zipWith_right _
  | @step p u v hu hv ihu ihv =>
    -- the first piece opens the text, whatever the later ones do
    rw [List.append_assoc]
    have hu : Text.Opens (p.opening []) (u ++ (v ++ s)) := ihu trivial
    exact hu.zipWith_left _
  | except h hw ih => exact ih hs

/-- The pattern of a word in front tells how a text opens, whatever is
behind the word. -/
theorem Word.opens {p : Pattern} {w : Text} (hw : Word p w) (rest : Text) :
    Text.Opens (p.opening []) (w ++ rest) :=
  hw.opens_append trivial

/-- What is read off a text tells how the text opens. -/
theorem opens_of_scan {p : Pattern} {s : Text} {n : Nat} (h : p.scan s = some n) :
    s.Opens (p.opening []) := by
  have hopens := (scan_sound h).2.opens (s.drop n)
  rwa [List.take_append_drop] at hopens

/-- An alternative is passed over where a word of another one stands that
opens in another way. -/
theorem scan_alt_of_openings {p q : Pattern}
    (hapart : areOpeningsApart (p.opening []) (q.opening []) = true) {w : Text}
    (hw : Word q w) (s : Text) : (p ||| q).scan (w ++ s) = q.scan (w ++ s) := by
  have hnone : p.scan (w ++ s) = none := by
    cases hscan : p.scan (w ++ s) with
    | none => rfl
    | some n =>
      exact absurd (hw.opens s) (not_opens_of_areOpeningsApart hapart (opens_of_scan hscan))
  show scan (.alt p q) (w ++ s) = _
  rw [scan, hnone]

end Pattern

end Aula
